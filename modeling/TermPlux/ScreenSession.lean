/-
This file models a session between the server library and the client library: what
the server keeps for the client, the framebuffer of the client, and the bytes that
are on the way in each direction. The application draws and copies on the screen at
any time, and the two sides send and handle their messages in any order.

Whatever is on the way, a client that has handled it is in step with the server. When
the application pauses, only so many steps are left, and when none is left the client
shows the screen.
-/

import TermPlux.UpdateRequests

namespace TermPlux.Rfb

open Raster SraRegion

variable {size width height : Nat}

structure ScreenSession (size width height : Nat) where
  server : ServerClient size width height
  client : RfbClient size
  /-- What the client has written, and the server has not read. -/
  toServer : List UInt8
  /-- What the server has written, and the client has not read. -/
  toClient : List UInt8

/-- What stays the same in a session: how the server sends updates, and the parts of the two
libraries that are not modelled. -/
structure Ends (size width height : Nat) where
  settings : UpdateSettings
  surroundings : Surroundings size
  others : Nat → ServerClient size width height → Decoder (ServerClient size width height)

/-- A step of one of the sides. -/
inductive Delivery
  | rfbProcessClientMessage
  | rfbUpdateClient
  | processServerMessage

/-- A step of a session. The application draws, or copies a region. The user of the client may have
it refreshed. -/
inductive SessionEvent (size width height : Nat)
  | draw (screen : Screen size) (modRegion : ClippedRegion width height)
  | copy (copyRegion : ClippedRegion width height) (dx dy : Int)
  | refreshFrameBuffer
  | deliver (delivery : Delivery)

namespace ScreenSession

variable {ends : Ends size width height} {session later : ScreenSession size width height}

/-! ### The steps -/

/-- `updateRect` is the whole framebuffer. -/
def SendIncrementalFramebufferUpdateRequest (client : RfbClient size) : List UInt8 :=
  SendFramebufferUpdateRequest ⟨0, 0, client.buffer.width, client.buffer.height⟩ true

def rfbProcessClientMessage (ends : Ends size width height)
    (session : ScreenSession size width height) : Option (ScreenSession size width height) :=
  ((rfbProcessClientNormalMessage ends.others session.server).run session.toServer).map
    fun (server, toServer) => { session with server, toServer }

/-- The client is not on hold, and the time for which updates are deferred has passed. -/
def rfbUpdateClient (ends : Ends size width height) (session : ScreenSession size width height) :
    Option (ScreenSession size width height) :=
  if session.server.updatePending && !session.server.requestedRegion.sraRgnEmpty then
    match session.server.rfbSendFramebufferUpdate ends.settings with
    | (server, none) => some { session with server }
    | (server, some update) =>
      (update.send ends.settings.preferredEncoding ends.settings.afterEncBufSize
        ends.settings.pad).map fun message =>
          { session with server, toClient := session.toClient ++ message }
  else none

/-- Updates are always requested automatically. -/
def processServerMessage (ends : Ends size width height)
    (session : ScreenSession size width height) : Option (ScreenSession size width height) :=
  ((HandleRFBServerMessage ends.surroundings session.client).run session.toClient).map
    fun (client, toClient) =>
      { session with
        client
        toClient
        toServer :=
          if session.toClient.head?.map UInt8.toNat = some rfbFramebufferUpdate then
            session.toServer ++ SendIncrementalFramebufferUpdateRequest client
          else session.toServer }

def deliver (ends : Ends size width height) (session : ScreenSession size width height) :
    Delivery → Option (ScreenSession size width height)
  | .rfbProcessClientMessage => session.rfbProcessClientMessage ends
  | .rfbUpdateClient => session.rfbUpdateClient ends
  | .processServerMessage => session.processServerMessage ends

def step (ends : Ends size width height) (session : ScreenSession size width height) :
    SessionEvent size width height → Option (ScreenSession size width height)
  | .draw screen modRegion =>
    some { session with
      server := ServerClient.rfbMarkRegionAsModified { session.server with screen } modRegion }
  | .copy copyRegion dx dy =>
    some { session with
      server := session.server.rfbDoCopyRegion ends.settings copyRegion dx dy }
  | .refreshFrameBuffer =>
    some { session with
      toServer := session.toServer ++ SendFramebufferUpdateRequest
        ⟨0, 0, session.client.buffer.width, session.client.buffer.height⟩ true }
  | .deliver delivery => session.deliver ends delivery

/-- The rectangles of an update are few enough for its message and for the buffer. -/
def Announced (ends : Ends size width height) (session : ScreenSession size width height) : Prop :=
  ∀ update, (session.server.rfbSendFramebufferUpdate ends.settings).2 = some update →
    update.Few ends.settings.preferredEncoding

/-- The application marks what it draws, and copies within the screen. -/
def Allowed (ends : Ends size width height) (session : ScreenSession size width height) :
    SessionEvent size width height → Prop
  | .draw screen modRegion => ∀ column row : Nat, column < width → row < height →
      ¬modRegion.Contains column row → screen column row = session.server.screen column row
  | .copy copyRegion dx dy =>
    (ServerClient.Copyable copyRegion dx dy ∧ ServerClient.Undisturbed copyRegion dx dy) ∧
      ServerClient.IntShift dx dy
  | .refreshFrameBuffer => True
  | .deliver _ => session.Announced ends

/-- The rectangle that the client requests. -/
def wholeScreen (width height : Nat) : Rectangle := ⟨0, 0, width, height⟩

theorem within_wholeScreen : (wholeScreen width height).Within width height :=
  ⟨(Nat.zero_add width).le, (Nat.zero_add height).le⟩

/-- The connection was made, and the client has requested the whole screen. -/
def initial (some : 0 < width ∧ 0 < height) (sized : FrameBuffer.Sized (PixelBytes size) width height)
    (screen : Screen size) (pixels : Nat → PixelBytes size) : ScreenSession size width height where
  server :=
    { screen
      modifiedRegion := .rect (wholeScreen width height) some within_wholeScreen
      copyRegion := .empty width height
      copyDX := 0
      copyDY := 0
      requestedRegion := .empty width height }
  client := { buffer := ⟨width, height, pixels, sized⟩ }
  toServer := SendFramebufferUpdateRequest (wholeScreen width height) false
  toClient := []

/-- The sides take steps while the application pauses. -/
inductive Delivered (ends : Ends size width height) :
    ScreenSession size width height → List Delivery → ScreenSession size width height → Prop
  | nothing (session : ScreenSession size width height) : Delivered ends session [] session
  | deliver {session between later : ScreenSession size width height} {delivery : Delivery}
    {deliveries : List Delivery} (announced : session.Announced ends)
    (delivers : session.deliver ends delivery = some between)
    (more : Delivered ends between deliveries later) :
    Delivered ends session (delivery :: deliveries) later

/-- Neither side can take a step. -/
def Quiet (ends : Ends size width height) (session : ScreenSession size width height) : Prop :=
  ∀ delivery, session.deliver ends delivery = none

/-! ### What is on the way to the client -/

/-- The bytes are so many updates, and this is the client when it has handled them. -/
inductive Arrives (surroundings : Surroundings size) :
    Nat → RfbClient size → List UInt8 → RfbClient size → Prop
  | nothing (client : RfbClient size) : Arrives surroundings 0 client [] client
  | update {count : Nat} {client between after : RfbClient size} {fields bytes : List UInt8}
    (handled : (HandleRFBServerMessage surroundings client).run
      (UInt8.ofNat rfbFramebufferUpdate :: fields) = some (between, []))
    (sized : between.buffer.width = client.buffer.width ∧
      between.buffer.height = client.buffer.height)
    (more : Arrives surroundings count between bytes after) :
    Arrives surroundings (count + 1) client (UInt8.ofNat rfbFramebufferUpdate :: (fields ++ bytes))
      after

variable {surroundings : Surroundings size} {client between after : RfbClient size}
variable {count : Nat} {bytes fields : List UInt8}

/-- One more update was sent. -/
theorem Arrives.append (arrives : Arrives surroundings count client bytes between)
    (handled : (HandleRFBServerMessage surroundings between).run
      (UInt8.ofNat rfbFramebufferUpdate :: fields) = some (after, []))
    (sized : after.buffer.width = between.buffer.width ∧
      after.buffer.height = between.buffer.height) :
    Arrives surroundings (count + 1) client (bytes ++ UInt8.ofNat rfbFramebufferUpdate :: fields)
      after := by
  induction arrives with
  | nothing client =>
    have last := Arrives.update handled sized (.nothing after)
    rwa [List.append_nil] at last
  | update first same more inductionHypothesis =>
    rw [List.cons_append, List.append_assoc]
    exact .update first same (inductionHypothesis handled sized)

/-- The client handles one message for each of them. -/
theorem Arrives.run (arrives : Arrives surroundings count client bytes after) :
    (handleMessages surroundings count client).run bytes = some (after, []) := by
  induction arrives with
  | nothing client => rfl
  | update handled sized more inductionHypothesis =>
    rw [handleMessages, ← List.cons_append,
      Decoder.run_bind_of_run (Decoder.run_append handled _)]
    exact inductionHypothesis

theorem Arrives.zero (arrives : Arrives surroundings 0 client bytes after) :
    bytes = [] ∧ after = client := by
  cases arrives
  exact ⟨rfl, rfl⟩

/-- The client handles the first update. -/
theorem Arrives.succ (arrives : Arrives surroundings (count + 1) client bytes after) :
    ∃ between rest, ((HandleRFBServerMessage surroundings client).run bytes = some (between, rest) ∧
        bytes.head? = some (UInt8.ofNat rfbFramebufferUpdate)) ∧
      (between.buffer.width = client.buffer.width ∧
        between.buffer.height = client.buffer.height) ∧
        Arrives surroundings count between rest after := by
  cases arrives with
  | update handled sized more =>
    exact ⟨_, _, ⟨Decoder.run_append handled _, rfl⟩, sized, more⟩

theorem Arrives.sized (arrives : Arrives surroundings count client bytes after) :
    after.buffer.width = client.buffer.width ∧ after.buffer.height = client.buffer.height := by
  induction arrives with
  | nothing client => exact ⟨rfl, rfl⟩
  | update handled sized more inductionHypothesis =>
    exact ⟨inductionHypothesis.1.trans sized.1, inductionHypothesis.2.trans sized.2⟩

/-! ### What holds all along -/

theorem contains_wholeScreen (some : 0 < width ∧ 0 < height) {x y : Int} :
    (ClippedRegion.rect (wholeScreen width height) some within_wholeScreen).Contains x y ↔
      (0 ≤ x ∧ x < width) ∧ 0 ≤ y ∧ y < height := by
  refine (ClippedRegion.contains_rect _ _).trans ?_
  unfold wholeScreen
  dsimp only
  omega

/-- The client has requested the whole screen so many times, each time incrementally or not, and so
many updates are on the way. A request or an update is on the way, or the server knows what the
client asked for. -/
structure Fine (ends : Ends size width height) (session : ScreenSession size width height)
    (requests : List Bool) (count : Nat) (after : RfbClient size) : Prop where
  requested : session.toServer =
    requests.flatMap (SendFramebufferUpdateRequest (wholeScreen width height))
  arrives : Arrives ends.surroundings count session.client session.toClient after
  inStep : session.server.InStep after.buffer
  whole : session.server.requestedRegion.sraRgnEmpty = true ∨
    ∀ x y : Int, (0 ≤ x ∧ x < width) ∧ 0 ≤ y ∧ y < height →
      session.server.requestedRegion.Contains x y
  moving : requests ≠ [] ∨ session.server.requestedRegion.sraRgnEmpty = false ∨ count ≠ 0

/-- How many steps a request may bring about. A request that is not incremental makes the server
send an update, which the client answers with another request. -/
def requestSteps (incremental : Bool) : Nat := if incremental then 1 else 5

/-- How many steps the sides can still take at most. -/
def stepsLeft (session : ScreenSession size width height) (requests : List Bool) (count : Nat) :
    Nat :=
  (requests.map requestSteps).sum + 2 * count + if session.server.updatePending then 3 else 0

variable {requests : List Bool}

theorem Fine.sized (fine : Fine ends session requests count after) :
    session.client.buffer.width = width ∧ session.client.buffer.height = height := by
  obtain ⟨wide, high⟩ := fine.arrives.sized
  exact ⟨wide.symm.trans fine.inStep.wide, high.symm.trans fine.inStep.high⟩

theorem Fine.initial (ends : Ends size width height) (some : 0 < width ∧ 0 < height)
    (sized : FrameBuffer.Sized (PixelBytes size) width height) (screen : Screen size)
    (pixels : Nat → PixelBytes size) :
    Fine ends (ScreenSession.initial some sized screen pixels) [false] 0
      { buffer := ⟨width, height, pixels, sized⟩ } where
  requested := (List.flatMap_singleton _ _).symm
  arrives := .nothing _
  inStep :=
    { wide := rfl
      high := rfl
      kept := fun column row inside below unmodified _ =>
        absurd ((contains_wholeScreen some).mpr (by omega)) unmodified
      source := fun _ copied => absurd copied not_contains_create
      moved := fun _ _ _ copied => absurd copied not_contains_create }
  whole := .inl rfl
  moving := .inl (List.cons_ne_nil _ _)

/-! ### The application and the user -/

/-- The application draws. -/
theorem Fine.draw (fine : Fine ends session requests count after) {screen : Screen size}
    {modRegion : ClippedRegion width height}
    (allowed : session.Allowed ends (.draw screen modRegion)) :
    Fine ends { session with server :=
      ServerClient.rfbMarkRegionAsModified { session.server with screen } modRegion }
        requests count after :=
  ⟨fine.requested, fine.arrives, fine.inStep.drawn modRegion allowed, fine.whole, fine.moving⟩

/-- The application copies. -/
theorem Fine.copy (fine : Fine ends session requests count after)
    {copyRegion : ClippedRegion width height} {dx dy : Int}
    (allowed : session.Allowed ends (.copy copyRegion dx dy)) :
    Fine ends { session with server :=
      session.server.rfbDoCopyRegion ends.settings copyRegion dx dy } requests count after := by
  have same : (session.server.rfbDoCopyRegion ends.settings copyRegion dx dy).requestedRegion =
      session.server.requestedRegion := by
    unfold ServerClient.rfbDoCopyRegion ServerClient.rfbScheduleCopyRegion
    dsimp only
    split <;> rfl
  obtain ⟨⟨copyable, undisturbed⟩, -⟩ := allowed
  refine ⟨fine.requested, fine.arrives, fine.inStep.copied ends.settings copyable undisturbed, ?_, ?_⟩
  · rw [same]
    exact fine.whole
  · rw [same]
    exact fine.moving

/-- One more request was written. -/
theorem requested_append {toServer : List UInt8}
    (requested : toServer =
      requests.flatMap (SendFramebufferUpdateRequest (wholeScreen width height)))
    (wide : client.buffer.width = width) (high : client.buffer.height = height) :
    toServer ++ SendIncrementalFramebufferUpdateRequest client =
      (requests ++ [true]).flatMap (SendFramebufferUpdateRequest (wholeScreen width height)) := by
  rw [List.flatMap_append, List.flatMap_singleton, ← requested,
    SendIncrementalFramebufferUpdateRequest, wide, high]
  rfl

/-- The client requests an update. -/
theorem Fine.request (fine : Fine ends session requests count after) :
    Fine ends { session with
      toServer := session.toServer ++ SendIncrementalFramebufferUpdateRequest session.client }
        (requests ++ [true]) count after :=
  ⟨requested_append fine.requested fine.sized.1 fine.sized.2, fine.arrives, fine.inStep, fine.whole,
    .inl (List.append_ne_nil_of_right_ne_nil _ (List.cons_ne_nil _ _))⟩

/-! ### The server reads a request -/

theorem rfbProcessClientMessage_nil (fine : Fine ends session [] count after) :
    session.rfbProcessClientMessage ends = none := by
  unfold rfbProcessClientMessage
  rw [fine.requested]
  rfl

theorem rfbProcessClientMessage_cons (bounds : width < 256 ^ 2 ∧ height < 256 ^ 2)
    (some : 0 < width ∧ 0 < height) {incremental : Bool}
    (fine : Fine ends session (incremental :: requests) count after) :
    session.rfbProcessClientMessage ends = Option.some { session with
      server := session.server.request (.rect (wholeScreen width height) some within_wholeScreen)
        incremental
      toServer := requests.flatMap (SendFramebufferUpdateRequest (wholeScreen width height)) } := by
  unfold rfbProcessClientMessage
  rw [fine.requested, List.flatMap_cons,
    run_rfbProcessClientNormalMessage session.server bounds some within_wholeScreen]
  rfl

/-- The server knows what the client asked for. -/
theorem Fine.receive (some : 0 < width ∧ 0 < height) {incremental : Bool}
    (fine : Fine ends session (incremental :: requests) count after) :
    Fine ends { session with
      server := session.server.request (.rect (wholeScreen width height) some within_wholeScreen)
        incremental
      toServer := requests.flatMap (SendFramebufferUpdateRequest (wholeScreen width height)) }
        requests count after := by
  have all {x y : Int} (inside : (0 ≤ x ∧ x < width) ∧ 0 ≤ y ∧ y < height) :
      (session.server.request (.rect (wholeScreen width height) some within_wholeScreen)
        incremental).requestedRegion.Contains x y := by
    have asked : (session.server.requestedRegion.or (.rect (wholeScreen width height) some
        within_wholeScreen)).Contains x y := contains_or.mpr (.inr ((contains_wholeScreen some).mpr inside))
    unfold ServerClient.request
    cases incremental <;> exact asked
  refine ⟨rfl, fine.arrives, fine.inStep.request _ incremental, .inr fun x y => all, .inr (.inl ?_)⟩
  refine Bool.eq_false_iff.mpr fun empty => ?_
  exact sraRgnEmpty_iff.mp empty 0 0 (all (by omega))

/-! ### The client handles an update -/

theorem processServerMessage_zero (fine : Fine ends session requests 0 after) :
    session.processServerMessage ends = none := by
  unfold processServerMessage
  rw [fine.arrives.zero.1]
  rfl

/-- The client handles the update, and requests the next one. -/
theorem processServerMessage_succ (fine : Fine ends session requests (count + 1) after) :
    ∃ later, session.processServerMessage ends = some later ∧ later.server = session.server ∧
      Fine ends later (requests ++ [true]) count after := by
  obtain ⟨between, rest, ⟨handled, first⟩, sized, more⟩ := fine.arrives.succ
  have type : session.toClient.head?.map UInt8.toNat = some rfbFramebufferUpdate := by
    rw [first]
    rfl
  refine ⟨{ session with
    client := between
    toClient := rest
    toServer := session.toServer ++ SendIncrementalFramebufferUpdateRequest between }, ?_, rfl, ?_⟩
  · unfold processServerMessage
    rw [handled, Option.map_some]
    dsimp only
    rw [if_pos type]
  · exact ⟨requested_append fine.requested (sized.1.trans fine.sized.1)
      (sized.2.trans fine.sized.2), more, fine.inStep, fine.whole,
        .inl (List.append_ne_nil_of_right_ne_nil _ (List.cons_ne_nil _ _))⟩

/-! ### The server sends an update -/

/-- The server has something to send, and the client asked for the whole screen. -/
theorem rfbUpdateClient_eq (pending : session.server.updatePending = true)
    (asked : session.server.requestedRegion.sraRgnEmpty = false)
    {server : ServerClient size width height} {update : Update size}
    (sends : session.server.rfbSendFramebufferUpdate ends.settings = (server, some update)) :
    session.rfbUpdateClient ends = (update.send ends.settings.preferredEncoding
      ends.settings.afterEncBufSize ends.settings.pad).map fun message =>
        { session with server, toClient := session.toClient ++ message } := by
  unfold rfbUpdateClient
  rw [pending, asked, if_pos (by rfl), sends]

/-- An update begins with its type. -/
theorem exists_fields {update : Update size} {encoding : PreferredEncoding} {afterEncBufSize : Nat}
    {pad : UInt8} {message : List UInt8}
    (sent : update.send encoding afterEncBufSize pad = some message) :
    ∃ fields, message = UInt8.ofNat rfbFramebufferUpdate :: fields := by
  obtain ⟨moved, -, sent⟩ := Option.bind_eq_some_iff.mp sent
  obtain ⟨body, -, rfl⟩ := Option.map_eq_some_iff.mp sent
  exact ⟨_, rfl⟩

/-- The server sends all that changed. -/
theorem Fine.update (format : 0 < size ∧ size ≤ 4) (bounds : width < 256 ^ 2 ∧ height < 256 ^ 2)
    (fine : Fine ends session requests count after) (announced : session.Announced ends)
    (updated : session.rfbUpdateClient ends = some later) :
    ∃ after, (Fine ends later requests (count + 1) after ∧
        later.server.updatePending = false) ∧
      session.server.updatePending = true ∧ later.server.screen = session.server.screen := by
  have enabled := updated
  unfold rfbUpdateClient at enabled
  split at enabled
  · next both =>
    rw [Bool.and_eq_true, Bool.not_eq_true'] at both
    obtain ⟨pending, asked⟩ := both
    have whole := fine.whole.resolve_left (ne_of_eq_of_ne asked Bool.false_ne_true)
    obtain ⟨server, update, sends, settled, unasked⟩ :=
      ServerClient.rfbSendFramebufferUpdate_whole ends.settings pending whole
    rw [rfbUpdateClient_eq pending asked sends] at updated
    obtain ⟨message, sent, rfl⟩ := Option.map_eq_some_iff.mp updated
    have second : (session.server.rfbSendFramebufferUpdate ends.settings).2 = some update := by
      rw [sends]
    have fits := ServerClient.fits_rfbSendFramebufferUpdate sends (announced update second)
    obtain ⟨last, handled, applied⟩ := @run_update _ ends.surroundings after width height update
      _ _ _ format bounds fine.inStep.wide fine.inStep.high fits message sent []
    obtain ⟨fields, rfl⟩ := exists_fields sent
    have arrived : ServerClient.Arrived (session.server.rfbSendFramebufferUpdate ends.settings).2
        after.buffer last.buffer := by
      rw [second]
      exact applied
    have inStep := fine.inStep.updated ends.settings arrived
    have screen := ServerClient.screen_rfbSendFramebufferUpdate ends.settings session.server
    rw [sends] at inStep screen
    rw [List.append_nil] at handled
    refine ⟨last, ⟨⟨fine.requested,
      fine.arrives.append handled ⟨applied.width, applied.height⟩, inStep, .inl unasked,
      .inr (.inr (Nat.succ_ne_zero count))⟩, settled⟩, pending, screen⟩
  · cases enabled

/-! ### Whole runs -/

/-- A step of one of the sides keeps all this, leaves the screen alone, and leaves fewer steps. -/
theorem Fine.deliver (some : 0 < width ∧ 0 < height) (format : 0 < size ∧ size ≤ 4)
    (bounds : width < 256 ^ 2 ∧ height < 256 ^ 2) (fine : Fine ends session requests count after)
    (announced : session.Announced ends) {delivery : Delivery}
    (delivers : session.deliver ends delivery = Option.some later) :
    ∃ requests' count' after', Fine ends later requests' count' after' ∧
      later.stepsLeft requests' count' < session.stepsLeft requests count ∧
        later.server.screen = session.server.screen := by
  unfold stepsLeft
  cases delivery with
  | rfbProcessClientMessage =>
    cases requests with
    | nil =>
      rw [deliver, rfbProcessClientMessage_nil fine] at delivers
      cases delivers
    | cons incremental requests =>
      rw [deliver, rfbProcessClientMessage_cons bounds some fine] at delivers
      cases delivers
      refine ⟨requests, count, after, fine.receive some, ?_, ?_⟩
      · rw [List.map_cons, List.sum_cons]
        cases incremental with
        | true =>
          show _ + _ + (if session.server.updatePending then 3 else 0) < 1 + _ + _ + _
          omega
        | false =>
          show _ + _ + _ < 5 + _ + _ + _
          split <;> omega
      · cases incremental <;> rfl
  | rfbUpdateClient =>
    obtain ⟨last, ⟨fine, settled⟩, pending, screen⟩ := fine.update format bounds announced delivers
    refine ⟨requests, count + 1, last, fine, ?_, screen⟩
    rw [settled, pending, if_neg Bool.false_ne_true, if_pos rfl]
    omega
  | processServerMessage =>
    cases count with
    | zero =>
      rw [deliver, processServerMessage_zero fine] at delivers
      cases delivers
    | succ count =>
      obtain ⟨_, handled, server, fine⟩ := processServerMessage_succ fine
      rw [deliver, handled] at delivers
      cases delivers
      refine ⟨requests ++ [true], count, after, fine, ?_, by rw [server]⟩
      rw [server, List.map_append, List.sum_append]
      show _ + 1 + _ + _ < _
      omega

/-- A server that has something to send can send it. -/
theorem isSome_rfbUpdateClient (format : 0 < size) (line : width * size ≤ UPDATE_BUF_SIZE)
    (fine : Fine ends session requests count after)
    (announced : session.Announced ends) (pending : session.server.updatePending = true)
    (asked : session.server.requestedRegion.sraRgnEmpty = false) :
    (session.rfbUpdateClient ends).isSome = true := by
  have whole := fine.whole.resolve_left (ne_of_eq_of_ne asked Bool.false_ne_true)
  obtain ⟨server, update, sends, -⟩ :=
    ServerClient.rfbSendFramebufferUpdate_whole ends.settings pending whole
  rw [rfbUpdateClient_eq pending asked sends, Option.isSome_map]
  have few := announced update (by rw [sends])
  refine update.isSome_send format few.copies fun rect member => ?_
  have within := ServerClient.within_rfbSendFramebufferUpdate sends rect member
  have narrow : rect.w ≤ width := (Nat.le_add_left _ _).trans within.1
  exact (Nat.mul_le_mul_right size narrow).trans line

/-- Where neither side can take a step, the client shows the screen. -/
theorem Fine.shows (some : 0 < width ∧ 0 < height) (format : 0 < size)
    (bounds : width < 256 ^ 2 ∧ height < 256 ^ 2) (line : width * size ≤ UPDATE_BUF_SIZE)
    (fine : Fine ends session requests count after) (announced : session.Announced ends)
    (quiet : session.Quiet ends) : Shows session.client.buffer session.server.screen := by
  obtain rfl : requests = [] := by
    cases requests with
    | nil => rfl
    | cons incremental requests =>
      have stuck : session.rfbProcessClientMessage ends = none := quiet .rfbProcessClientMessage
      rw [rfbProcessClientMessage_cons bounds some fine] at stuck
      cases stuck
  obtain rfl : count = 0 := by
    cases count with
    | zero => rfl
    | succ count =>
      obtain ⟨_, handled, -⟩ := processServerMessage_succ fine
      have stuck : session.processServerMessage ends = none := quiet .processServerMessage
      rw [handled] at stuck
      cases stuck
  have asked : session.server.requestedRegion.sraRgnEmpty = false := by
    rcases fine.moving with absurd | asked | absurd
    · exact (absurd rfl).elim
    · exact asked
    · exact (absurd rfl).elim
  have settled : ¬session.server.updatePending = true := by
    intro pending
    have stuck : session.rfbUpdateClient ends = none := quiet .rfbUpdateClient
    have enabled := isSome_rfbUpdateClient format line fine announced pending asked
    rw [stuck] at enabled
    cases enabled
  have unchanged (x y : Int) := not_or.mp fun changed =>
    settled (ServerClient.updatePending_iff.mpr ⟨x, y, changed⟩)
  obtain ⟨wide, high⟩ := fine.sized
  obtain ⟨-, rfl⟩ := fine.arrives.zero
  intro column row inside below
  exact fine.inStep.kept column row (wide ▸ inside) (high ▸ below) (unchanged column row).1
    (unchanged column row).2

/-- A run of steps of the sides. -/
theorem Fine.delivered (some : 0 < width ∧ 0 < height) (format : 0 < size ∧ size ≤ 4)
    (bounds : width < 256 ^ 2 ∧ height < 256 ^ 2) (fine : Fine ends session requests count after)
    {deliveries : List Delivery} (delivered : Delivered ends session deliveries later) :
    ∃ requests' count' after', Fine ends later requests' count' after' ∧
      later.stepsLeft requests' count' + deliveries.length ≤ session.stepsLeft requests count ∧
        later.server.screen = session.server.screen := by
  induction delivered generalizing requests count after with
  | nothing session => exact ⟨requests, count, after, fine, le_rfl, rfl⟩
  | deliver announced delivers more inductionHypothesis =>
    obtain ⟨requests', count', after', kept, fewer, screen⟩ :=
      fine.deliver some format bounds announced delivers
    obtain ⟨requests'', count'', after'', last, bound, same⟩ := inductionHypothesis kept
    refine ⟨requests'', count'', after'', last, ?_, same.trans screen⟩
    rw [List.length_cons]
    omega

end ScreenSession

end TermPlux.Rfb
