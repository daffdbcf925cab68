/-
This file models how the client library reads from the server: `ReadFromRFBServer`
with its buffer. Small blocks come out of the buffer, large ones are read directly
behind what the buffer still holds, and a call of `read` may deliver fewer bytes
than it was asked for, or none for now.

Whatever the calls of `read` deliver, the blocks are the bytes of the server, in
order and without loss, so a decoder behaves as it does on the plain stream.
-/

import TermPlux.ByteDecoder

namespace TermPlux

/-- How a call of `read` turns out. -/
inductive ReadOutcome
  /-- One byte and so many more are available. There are fewer where the server sent no more, and
  none where it closed the connection. -/
  | ready (more : Nat)
  /-- `EWOULDBLOCK` or `EAGAIN` -/
  | wouldBlock
  | error
  deriving DecidableEq

/-- The buffer of the client, what the server has sent, and how the next calls of `read` turn
out. -/
structure RfbSocket where
  buf : List UInt8
  bufoutptr : Nat
  buffered : Nat
  readTimeout : Nat
  incoming : List UInt8
  outcomes : List ReadOutcome

namespace RfbSocket

def RFB_BUF_SIZE : Nat := 8192

def USECS_WAIT_PER_RETRY : Nat := 100000

/-- `memcpy` into a buffer. -/
def writeAt (buffer : List UInt8) (offset : Nat) (bytes : List UInt8) : List UInt8 :=
  buffer.take offset ++ bytes ++ buffer.drop (offset + bytes.length)

/-- Whether so many retries are too many. The product is unsigned. -/
def timesOut (socket : RfbSocket) (retries : Nat) : Bool :=
  decide (0 < socket.readTimeout) &&
    decide (socket.readTimeout * 1000 * 1000 % 2 ^ 32 / USECS_WAIT_PER_RETRY < retries)

/-- A call of `read` inside one of the loops: the bytes that it delivers, and the retries so far.
It delivers none where the call would block. There is no result where the loop returns `FALSE`. -/
def attempt (count retries : Nat) (socket : RfbSocket) :
    ReadOutcome → Option (List UInt8 × Nat × RfbSocket)
  | .ready more =>
    let bytes := socket.incoming.take (min (more + 1) count)
    if bytes.isEmpty then none
    else some (bytes, retries, { socket with incoming := socket.incoming.drop bytes.length })
  | .wouldBlock =>
    if socket.timesOut (retries + 1) then none else some ([], retries + 1, socket)
  | .error => none

/-- The loop that reads into the buffer until it holds what is needed. It has not returned where
the outcomes are used up before. -/
def fillBuffer (needed retries : Nat) (socket : RfbSocket) : List ReadOutcome → Option RfbSocket
  | [] => if needed ≤ socket.buffered then some { socket with outcomes := [] } else none
  | outcome :: rest =>
    if needed ≤ socket.buffered then some { socket with outcomes := outcome :: rest }
    else
      (socket.attempt (RFB_BUF_SIZE - socket.buffered) retries outcome).bind
        fun (bytes, retries, socket) =>
          fillBuffer needed retries
            { socket with
              buf := writeAt socket.buf socket.buffered bytes
              buffered := socket.buffered + bytes.length } rest

/-- The loop that reads `left` bytes behind those in `out`. -/
def readDirectly (left retries : Nat) (out : List UInt8) (socket : RfbSocket) :
    List ReadOutcome → Option (List UInt8 × RfbSocket)
  | [] => if left = 0 then some (out, { socket with outcomes := [] }) else none
  | outcome :: rest =>
    if left = 0 then some (out, { socket with outcomes := outcome :: rest })
    else
      (socket.attempt left retries outcome).bind fun (bytes, retries, socket) =>
        readDirectly (left - bytes.length) retries (out ++ bytes) socket rest

/-- What the buffer holds. -/
def held (socket : RfbSocket) : List UInt8 :=
  (socket.buf.drop socket.bufoutptr).take socket.buffered

def ReadFromRFBServer (n : Nat) (socket : RfbSocket) : Option (List UInt8 × RfbSocket) :=
  if n ≤ socket.buffered then
    some ((socket.buf.drop socket.bufoutptr).take n,
      { socket with bufoutptr := socket.bufoutptr + n, buffered := socket.buffered - n })
  else
    let out := socket.held
    let left := n - socket.buffered
    let emptied := { socket with bufoutptr := 0, buffered := 0 }
    if left ≤ RFB_BUF_SIZE then
      (fillBuffer left 0 emptied socket.outcomes).map fun filled =>
        (out ++ (filled.buf.drop filled.bufoutptr).take left,
          { filled with
            bufoutptr := filled.bufoutptr + left, buffered := filled.buffered - left })
    else readDirectly left 0 out emptied socket.outcomes

/-- A block that a decoder asks for. -/
def fetch (count : Nat) (socket : RfbSocket) : Option (List.Vector UInt8 count × RfbSocket) :=
  (socket.ReadFromRFBServer count).bind fun outcome =>
    if length : outcome.1.length = count then some (⟨outcome.1, length⟩, outcome.2) else none

/-! ### The bytes of the server, in order -/

/-- The buffer has its size, and what it holds lies inside. -/
structure Sound (socket : RfbSocket) : Prop where
  size : socket.buf.length = RFB_BUF_SIZE
  inside : socket.bufoutptr + socket.buffered ≤ RFB_BUF_SIZE

/-- The bytes that the next blocks are made of. -/
def pending (socket : RfbSocket) : List UInt8 := socket.held ++ socket.incoming

theorem length_writeAt {buffer bytes : List UInt8} {offset : Nat}
    (room : offset + bytes.length ≤ buffer.length) :
    (writeAt buffer offset bytes).length = buffer.length := by
  rw [writeAt, List.length_append, List.length_append, List.length_take, List.length_drop]
  omega

/-- What lies before the written bytes is kept, and they follow it. -/
theorem take_writeAt {buffer bytes : List UInt8} {offset : Nat} (room : offset ≤ buffer.length) :
    (writeAt buffer offset bytes).take (offset + bytes.length) = buffer.take offset ++ bytes := by
  have length : (buffer.take offset ++ bytes).length = offset + bytes.length := by
    rw [List.length_append, List.length_take, Nat.min_eq_left room]
  rw [writeAt, ← length, List.take_left]

variable {socket : RfbSocket}

theorem length_held (sound : socket.Sound) : socket.held.length = socket.buffered := by
  rw [held, List.length_take, List.length_drop, sound.size, Nat.min_eq_left]
  have inside := sound.inside
  omega

/-- What a call of `read` delivers comes from the server, and nothing else changes. -/
theorem attempt_spec {count retries retries' : Nat} {outcome : ReadOutcome} {bytes : List UInt8}
    {later : RfbSocket}
    (ran : socket.attempt count retries outcome = some (bytes, retries', later)) :
    bytes.length ≤ count ∧ later = { socket with incoming := later.incoming } ∧
      socket.incoming = bytes ++ later.incoming := by
  cases outcome with
  | error => cases ran
  | wouldBlock =>
    rw [attempt] at ran
    split at ran
    · cases ran
    · cases ran
      exact ⟨Nat.zero_le count, rfl, rfl⟩
  | ready more =>
    rw [attempt] at ran
    split at ran
    · cases ran
    · cases ran
      refine ⟨?_, rfl, ?_⟩
      · rw [List.length_take]
        omega
      · exact (List.prefix_iff_eq_append.mp (List.take_prefix _ _)).symm

/-- Filling the buffer takes bytes from the server and keeps what is pending. -/
theorem fillBuffer_sound {needed retries : Nat} {outcomes : List ReadOutcome} {filled : RfbSocket}
    (sound : socket.Sound) (start : socket.bufoutptr = 0)
    (ran : fillBuffer needed retries socket outcomes = some filled) :
    filled.Sound ∧ filled.bufoutptr = 0 ∧ needed ≤ filled.buffered ∧
      filled.pending = socket.pending := by
  induction outcomes generalizing socket retries with
  | nil =>
    rw [fillBuffer] at ran
    split at ran
    · next enough =>
      cases ran
      exact ⟨⟨sound.size, sound.inside⟩, start, enough, rfl⟩
    · cases ran
  | cons outcome rest inductionHypothesis =>
    rw [fillBuffer] at ran
    split at ran
    · next enough =>
      cases ran
      exact ⟨⟨sound.size, sound.inside⟩, start, enough, rfl⟩
    · obtain ⟨⟨bytes, retries', later⟩, attempted, continued⟩ := Option.bind_eq_some_iff.mp ran
      obtain ⟨short, same, split⟩ := attempt_spec attempted
      have room : socket.buffered + bytes.length ≤ socket.buf.length := by
        have inside := sound.inside
        rw [sound.size]
        omega
      have buf : later.buf = socket.buf := by rw [same]
      have buffered : later.buffered = socket.buffered := by rw [same]
      have pointer : later.bufoutptr = 0 := by rw [same]; exact start
      dsimp only at continued
      rw [buf, buffered] at continued
      have before : socket.held = socket.buf.take socket.buffered := by
        rw [held, start, List.drop_zero]
      have middle : ({ later with
          buf := writeAt socket.buf socket.buffered bytes
          buffered := socket.buffered + bytes.length } : RfbSocket).Sound := by
        refine ⟨(length_writeAt room).trans sound.size, ?_⟩
        show later.bufoutptr + (socket.buffered + bytes.length) ≤ RFB_BUF_SIZE
        rw [pointer, Nat.zero_add, ← sound.size]
        exact room
      obtain ⟨kept, startLater, enough, pending⟩ := inductionHypothesis middle pointer continued
      refine ⟨kept, startLater, enough, pending.trans ?_⟩
      show ((writeAt socket.buf socket.buffered bytes).drop later.bufoutptr).take
        (socket.buffered + bytes.length) ++ later.incoming = socket.held ++ socket.incoming
      rw [pointer, List.drop_zero, take_writeAt (Nat.le_trans (Nat.le_add_right _ _) room),
        before, split, List.append_assoc]

/-- Reading directly takes the bytes from the server. -/
theorem readDirectly_sound {left retries : Nat} {out out' : List UInt8}
    {outcomes : List ReadOutcome} {later : RfbSocket}
    (ran : readDirectly left retries out socket outcomes = some (out', later)) :
    later.buf = socket.buf ∧ later.bufoutptr = socket.bufoutptr ∧
      later.buffered = socket.buffered ∧ out'.length = out.length + left ∧
      out ++ socket.incoming = out' ++ later.incoming := by
  induction outcomes generalizing socket retries left out with
  | nil =>
    rw [readDirectly] at ran
    split at ran
    · next none =>
      cases ran
      exact ⟨rfl, rfl, rfl, none ▸ rfl, rfl⟩
    · cases ran
  | cons outcome rest inductionHypothesis =>
    rw [readDirectly] at ran
    split at ran
    · next none =>
      cases ran
      exact ⟨rfl, rfl, rfl, none ▸ rfl, rfl⟩
    · obtain ⟨⟨bytes, retries', middle⟩, attempted, continued⟩ := Option.bind_eq_some_iff.mp ran
      obtain ⟨short, same, split⟩ := attempt_spec attempted
      obtain ⟨buf, pointer, buffered, length, bytesKept⟩ := inductionHypothesis continued
      rw [same] at buf pointer buffered
      refine ⟨buf, pointer, buffered, ?_, ?_⟩
      · rw [length, List.length_append]
        omega
      · rw [split, ← List.append_assoc, bytesKept]

theorem readFromRFBServer_sound {count : Nat} {out : List UInt8} {later : RfbSocket}
    (sound : socket.Sound) (ran : socket.ReadFromRFBServer count = some (out, later)) :
    later.Sound ∧ out.length = count ∧ socket.pending = out ++ later.pending := by
  rw [ReadFromRFBServer] at ran
  split at ran
  · -- The buffer holds enough.
    next enough =>
    cases ran
    have inside := sound.inside
    refine ⟨⟨sound.size, ?_⟩, ?_, ?_⟩
    · show socket.bufoutptr + count + (socket.buffered - count) ≤ RFB_BUF_SIZE
      omega
    · rw [List.length_take, List.length_drop, sound.size]
      omega
    · show ((socket.buf.drop socket.bufoutptr).take socket.buffered) ++ socket.incoming =
        (socket.buf.drop socket.bufoutptr).take count ++
          ((socket.buf.drop (socket.bufoutptr + count)).take (socket.buffered - count) ++
            socket.incoming)
      rw [← List.append_assoc, ← List.drop_drop, ← List.take_add, Nat.add_sub_cancel' enough]
  · next short =>
    have heldLength := length_held sound
    dsimp only at ran
    split at ran
    · -- The rest is read through the buffer.
      obtain ⟨filled, filling, same⟩ := Option.map_eq_some_iff.mp ran
      cases same
      have emptied : ({ socket with bufoutptr := 0, buffered := 0 } : RfbSocket).Sound :=
        ⟨sound.size, Nat.zero_le _⟩
      obtain ⟨filledSound, start, enough, kept⟩ := fillBuffer_sound emptied rfl filling
      have inside := filledSound.inside
      refine ⟨⟨filledSound.size, ?_⟩, ?_, ?_⟩
      · show filled.bufoutptr + (count - socket.buffered) +
          (filled.buffered - (count - socket.buffered)) ≤ RFB_BUF_SIZE
        omega
      · rw [List.length_append, heldLength, List.length_take, List.length_drop, filledSound.size]
        omega
      · have incoming : socket.incoming = filled.pending := kept.symm
        have whole : filled.held =
            (filled.buf.drop filled.bufoutptr).take (count - socket.buffered) ++
              (filled.buf.drop (filled.bufoutptr + (count - socket.buffered))).take
                (filled.buffered - (count - socket.buffered)) := by
          rw [held, ← List.drop_drop, ← List.take_add, Nat.add_sub_cancel' enough]
        show socket.held ++ socket.incoming = socket.held ++
          (filled.buf.drop filled.bufoutptr).take (count - socket.buffered) ++
            (((filled.buf.drop (filled.bufoutptr + (count - socket.buffered))).take
              (filled.buffered - (count - socket.buffered))) ++ filled.incoming)
        rw [incoming, pending, whole, List.append_assoc, List.append_assoc]
    · -- The rest is read directly.
      obtain ⟨buf, pointer, buffered, length, kept⟩ := readDirectly_sound ran
      refine ⟨⟨buf ▸ sound.size, ?_⟩, ?_, ?_⟩
      · rw [pointer, buffered]
        exact Nat.zero_le _
      · rw [length, heldLength]
        omega
      · have none : later.held = [] := by
          rw [held, buffered]
          rfl
        rw [pending, pending, none, List.nil_append]
        exact kept

theorem delivers_fetch : Decoder.Delivers fetch Sound pending := by
  intro count source later written sound ran
  obtain ⟨⟨out, middle⟩, read, block⟩ := Option.bind_eq_some_iff.mp ran
  split at block
  · cases block
    obtain ⟨kept, -, split⟩ := readFromRFBServer_sound sound read
    exact ⟨kept, split⟩
  · cases block

/-! ### A server that sends enough -/

/-- Every call of `read` delivers something, as long as the server sent something that is not read
yet. -/
structure Supplied (socket : RfbSocket) : Prop where
  sound : socket.Sound
  ready : ∀ outcome ∈ socket.outcomes, ∃ more, outcome = .ready more
  enough : socket.incoming.length ≤ socket.outcomes.length

/-- A call of `read` that can deliver something does. -/
theorem attempt_ready {count : Nat} (retries more : Nat) (sent : 0 < socket.incoming.length)
    (asked : 0 < count) :
    ∃ bytes later, socket.attempt count retries (.ready more) = some (bytes, retries, later) ∧
      0 < bytes.length := by
  have nonempty : 0 < (socket.incoming.take (min (more + 1) count)).length := by
    rw [List.length_take]
    omega
  have delivered : ¬(socket.incoming.take (min (more + 1) count)).isEmpty = true := by
    rw [List.isEmpty_iff]
    exact List.length_pos_iff.mp nonempty
  rw [attempt, if_neg delivered]
  exact ⟨_, _, rfl, nonempty⟩

theorem fillBuffer_complete {needed : Nat} (retries : Nat) {outcomes : List ReadOutcome}
    (ready : ∀ outcome ∈ outcomes, ∃ more, outcome = .ready more)
    (enough : socket.incoming.length ≤ outcomes.length) (fits : needed ≤ RFB_BUF_SIZE)
    (sent : needed ≤ socket.buffered + socket.incoming.length) :
    ∃ filled, fillBuffer needed retries socket outcomes = some filled ∧
      (∀ outcome ∈ filled.outcomes, ∃ more, outcome = .ready more) ∧
      filled.incoming.length ≤ filled.outcomes.length := by
  induction outcomes generalizing socket retries with
  | nil =>
    have none : socket.incoming.length = 0 := Nat.le_zero.mp enough
    refine ⟨{ socket with outcomes := [] }, ?_, ready, enough⟩
    rw [fillBuffer, if_pos (by omega)]
  | cons outcome rest inductionHypothesis =>
    rw [fillBuffer]
    split
    · exact ⟨_, rfl, ready, enough⟩
    · next short =>
      obtain ⟨more, rfl⟩ := ready outcome List.mem_cons_self
      obtain ⟨bytes, later, attempted, nonempty⟩ := attempt_ready retries more
        (show 0 < socket.incoming.length by omega)
        (show 0 < RFB_BUF_SIZE - socket.buffered by omega)
      obtain ⟨-, same, split⟩ := attempt_spec attempted
      have buffered : later.buffered = socket.buffered := by rw [same]
      have length := congrArg List.length split
      rw [List.length_append] at length
      rw [List.length_cons] at enough
      rw [attempted, Option.bind_some]
      refine inductionHypothesis _ (fun other member => ready other (List.mem_cons_of_mem _ member))
        ?_ ?_
      · show later.incoming.length ≤ rest.length
        omega
      · show needed ≤ later.buffered + bytes.length + later.incoming.length
        omega

theorem readDirectly_complete {left : Nat} (retries : Nat) (out : List UInt8)
    {outcomes : List ReadOutcome} (ready : ∀ outcome ∈ outcomes, ∃ more, outcome = .ready more)
    (enough : socket.incoming.length ≤ outcomes.length) (sent : left ≤ socket.incoming.length) :
    ∃ out' later, readDirectly left retries out socket outcomes = some (out', later) ∧
      (∀ outcome ∈ later.outcomes, ∃ more, outcome = .ready more) ∧
      later.incoming.length ≤ later.outcomes.length := by
  induction outcomes generalizing socket retries left out with
  | nil =>
    have none : socket.incoming.length = 0 := Nat.le_zero.mp enough
    refine ⟨out, { socket with outcomes := [] }, ?_, ready, enough⟩
    rw [readDirectly, if_pos (by omega)]
  | cons outcome rest inductionHypothesis =>
    rw [readDirectly]
    split
    · exact ⟨_, _, rfl, ready, enough⟩
    · next some =>
      obtain ⟨more, rfl⟩ := ready outcome List.mem_cons_self
      obtain ⟨bytes, later, attempted, nonempty⟩ := attempt_ready retries more
        (show 0 < socket.incoming.length by omega) (show 0 < left by omega)
      obtain ⟨-, -, split⟩ := attempt_spec attempted
      have length := congrArg List.length split
      rw [List.length_append] at length
      rw [List.length_cons] at enough
      rw [attempted, Option.bind_some]
      exact inductionHypothesis _ _
        (fun other member => ready other (List.mem_cons_of_mem _ member)) (by omega) (by omega)

/-- A block that the server has sent is read. -/
theorem readFromRFBServer_complete {count : Nat} (supplied : socket.Supplied)
    (sent : count ≤ socket.pending.length) :
    ∃ out later, socket.ReadFromRFBServer count = some (out, later) ∧ later.Supplied := by
  have sum : count ≤ socket.buffered + socket.incoming.length := by
    rw [← length_held supplied.sound, ← List.length_append]
    exact sent
  have kept {out : List UInt8} {later : RfbSocket}
      (ran : socket.ReadFromRFBServer count = some (out, later))
      (ready : ∀ outcome ∈ later.outcomes, ∃ more, outcome = .ready more)
      (enough : later.incoming.length ≤ later.outcomes.length) :
      ∃ out later, socket.ReadFromRFBServer count = some (out, later) ∧ later.Supplied :=
    ⟨out, later, ran, (readFromRFBServer_sound supplied.sound ran).1, ready, enough⟩
  rw [ReadFromRFBServer] at kept ⊢
  split
  · next held =>
    rw [if_pos held] at kept
    exact kept rfl supplied.ready supplied.enough
  · next short =>
    rw [if_neg short] at kept
    dsimp only at kept ⊢
    split
    · next fits =>
      rw [if_pos fits] at kept
      have sent' : count - socket.buffered ≤ 0 + socket.incoming.length := by omega
      obtain ⟨filled, filling, ready, enough⟩ := @fillBuffer_complete
        { socket with bufoutptr := 0, buffered := 0 } _ 0 _ supplied.ready supplied.enough fits
        sent'
      rw [filling] at kept ⊢
      exact kept rfl ready enough
    · next large =>
      rw [if_neg large] at kept
      have sent' : count - socket.buffered ≤ socket.incoming.length := by omega
      obtain ⟨out, later, ran, ready, enough⟩ := @readDirectly_complete
        { socket with bufoutptr := 0, buffered := 0 } _ 0 socket.held _ supplied.ready
        supplied.enough sent'
      exact kept ran ready enough

theorem fetch_complete {count : Nat} (supplied : socket.Supplied)
    (sent : count ≤ socket.pending.length) :
    ∃ written later, socket.fetch count = some (written, later) ∧ later.Supplied := by
  obtain ⟨out, later, ran, kept⟩ := readFromRFBServer_complete supplied sent
  have length := (readFromRFBServer_sound supplied.sound ran).2.1
  refine ⟨⟨out, length⟩, later, ?_, kept⟩
  rw [fetch, ran, Option.bind_some, dif_pos length]

theorem delivers_supplied : Decoder.Delivers fetch Supplied pending := by
  intro count source later written supplied ran
  obtain ⟨-, split⟩ := delivers_fetch count source later written supplied.sound ran
  have sent : count ≤ source.pending.length := by
    rw [split, List.length_append, written.toList_length]
    exact Nat.le_add_right count _
  obtain ⟨written', later', ran', kept⟩ := fetch_complete supplied sent
  rw [ran] at ran'
  cases ran'
  exact ⟨kept, split⟩

/-- However the calls of `read` cut the stream of the server into pieces, a decoder that returns
has decoded the stream, and leaves it where it does there. Where every call delivers something, the
decoder returns if the stream can be decoded. -/
theorem decoder_reads_stream {Value : Type} (decoder : Decoder Value) (sound : socket.Sound) :
    (∀ value later, decoder.runFrom fetch socket = some (value, later) →
      later.Sound ∧ decoder.run socket.pending = some (value, later.pending)) ∧
    (socket.Supplied → ∀ value rest, decoder.run socket.pending = some (value, rest) →
      ∃ later, decoder.runFrom fetch socket = some (value, later) ∧ later.pending = rest) := by
  constructor
  · exact fun value later ran => delivers_fetch.runFrom_sound decoder sound ran
  · intro supplied value rest ran
    refine delivers_supplied.runFrom_complete (fun count source supplied' sent => ?_) decoder
      supplied ran
    obtain ⟨written, later, fetched, -⟩ := fetch_complete supplied' sent
    exact Option.isSome_iff_exists.mpr ⟨_, fetched⟩

/-- The two bytes arrive one after the other. -/
theorem decoder_reads_stream_fresh :
    ∃ later : RfbSocket, (Decoder.block 2).runFrom fetch
      ⟨List.replicate RFB_BUF_SIZE 0, 0, 0, 0, [7, 9], [.ready 0, .ready 0]⟩ =
        some (⟨[7, 9], rfl⟩, later) ∧ later.pending = [] := by
  have sound : Sound ⟨List.replicate RFB_BUF_SIZE 0, 0, 0, 0, [7, 9], [.ready 0, .ready 0]⟩ :=
    ⟨List.length_replicate, Nat.zero_le _⟩
  refine (decoder_reads_stream (Decoder.block 2) sound).2 ⟨sound, ?_, Nat.le_refl 2⟩ _ _ rfl
  intro outcome member
  rcases List.mem_cons.mp member with rfl | member
  · exact ⟨0, rfl⟩
  · exact ⟨0, List.mem_singleton.mp member⟩

end RfbSocket

end TermPlux
