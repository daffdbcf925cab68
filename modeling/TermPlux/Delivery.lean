/-
This file is the library of letters that are handled once. Letters are numbered as
they are sent. One letter can wait for somebody to listen, and one can be posted,
to wait later. A letter that begins to wait takes the place of the one that
waited.

No letter is ever handled twice. Every letter is somewhere as long as none begins
to wait while another waits, and none is posted while another is posted.
-/

import Mathlib.Data.List.Nodup

namespace TermPlux

/-- The letters sent, the one that is posted, the one that waits, and those that were handled. -/
structure Delivery where
  sent : Nat
  posted : Option Nat
  waiting : Option Nat
  handled : List Nat

namespace Delivery

/-- Somebody who listens handles the letter that waits. -/
def settle (listening : Bool) (delivery : Delivery) : Delivery :=
  if listening then
    { delivery with waiting := none, handled := delivery.handled ++ delivery.waiting.toList }
  else delivery

def send (listening : Bool) (delivery : Delivery) : Delivery :=
  settle listening { delivery with sent := delivery.sent + 1, waiting := some delivery.sent }

def post (delivery : Delivery) : Delivery :=
  { delivery with sent := delivery.sent + 1, posted := some delivery.sent }

/-- The posted letter begins to wait. -/
def runPosted (listening : Bool) (delivery : Delivery) : Delivery :=
  match delivery.posted with
  | none => delivery
  | some letter => settle listening { delivery with posted := none, waiting := some letter }

/-- Where letters are. -/
def places (delivery : Delivery) : List Nat :=
  delivery.handled ++ delivery.waiting.toList ++ delivery.posted.toList

/-- No letter is in two places, and none that was not sent is in any. -/
structure Sound (delivery : Delivery) : Prop where
  distinct : delivery.places.Nodup
  known : ∀ letter ∈ delivery.places, letter < delivery.sent

/-- Every letter is somewhere. -/
def Complete (delivery : Delivery) : Prop :=
  ∀ letter < delivery.sent, letter ∈ delivery.places

variable {delivery : Delivery}

@[simp] theorem sent_settle (listening : Bool) : (delivery.settle listening).sent = delivery.sent := by
  unfold settle
  split <;> rfl

@[simp] theorem places_settle (listening : Bool) :
    (delivery.settle listening).places = delivery.places := by
  unfold settle places
  split
  · rw [Option.toList_none, List.append_nil]
  · rfl

theorem settle_of_free (free : delivery.waiting = none) (listening : Bool) :
    delivery.settle listening = delivery := by
  unfold settle
  split
  · rw [free, Option.toList_none, List.append_nil, ← free]
  · rfl

theorem sound_settle (listening : Bool) : (delivery.settle listening).Sound ↔ delivery.Sound := by
  constructor <;> rintro ⟨distinct, known⟩
  · exact ⟨by simpa using distinct, by simpa using known⟩
  · exact ⟨by simpa using distinct, by simpa using known⟩

theorem complete_settle (listening : Bool) :
    (delivery.settle listening).Complete ↔ delivery.Complete := by
  unfold Complete
  rw [sent_settle, places_settle]

theorem Sound.fresh (sound : delivery.Sound) : delivery.sent ∉ delivery.places :=
  fun member => Nat.lt_irrefl _ (sound.known _ member)

theorem sound_send (listening : Bool) (sound : delivery.Sound) :
    (delivery.send listening).Sound := by
  obtain ⟨distinct, known⟩ := sound
  have fresh := Sound.fresh ⟨distinct, known⟩
  refine (sound_settle listening).mpr ⟨?_, fun letter member => ?_⟩
  · simp only [places, List.nodup_append, List.mem_append, Option.toList_some] at distinct fresh ⊢
    grind
  · have cases : letter ∈ delivery.places ∨ letter = delivery.sent := by
      simp only [places, List.mem_append, Option.toList_some, List.mem_singleton] at member ⊢
      grind
    rcases cases with old | rfl
    · exact Nat.lt_succ_of_lt (known letter old)
    · exact Nat.lt_succ_self _

theorem sound_post (sound : delivery.Sound) : delivery.post.Sound := by
  obtain ⟨distinct, known⟩ := sound
  have fresh := Sound.fresh ⟨distinct, known⟩
  refine ⟨?_, fun letter member => ?_⟩
  · simp only [post, places, List.nodup_append, List.mem_append, Option.toList_some]
      at distinct fresh ⊢
    grind
  · have cases : letter ∈ delivery.places ∨ letter = delivery.sent := by
      simp only [post, places, List.mem_append, Option.toList_some, List.mem_singleton] at member ⊢
      grind
    rcases cases with old | rfl
    · exact Nat.lt_succ_of_lt (known letter old)
    · exact Nat.lt_succ_self _

theorem sound_runPosted (listening : Bool) (sound : delivery.Sound) :
    (delivery.runPosted listening).Sound := by
  obtain ⟨distinct, known⟩ := sound
  unfold runPosted
  split
  · exact ⟨distinct, known⟩
  · next letter posted =>
    refine (sound_settle listening).mpr ⟨?_, fun other member => known other ?_⟩
    · simp only [places, List.nodup_append, List.mem_append, posted, Option.toList_some,
        Option.toList_none] at distinct ⊢
      grind
    · simp only [places, List.mem_append, posted, Option.toList_some, Option.toList_none] at member ⊢
      grind

/-- A letter in a slot is in no other place. -/
theorem Sound.waiting_elsewhere (sound : delivery.Sound) {letter : Nat}
    (waits : delivery.waiting = some letter) :
    letter ∉ delivery.handled ∧ delivery.posted ≠ some letter := by
  have distinct := sound.distinct
  unfold places at distinct
  rw [waits, List.append_assoc, List.nodup_append] at distinct
  refine ⟨fun handled => distinct.2.2 _ handled _ (by simp) rfl, fun posted => ?_⟩
  rw [posted] at distinct
  simp at distinct

theorem Sound.posted_elsewhere (sound : delivery.Sound) {letter : Nat}
    (posted : delivery.posted = some letter) :
    letter ∉ delivery.handled ∧ delivery.waiting ≠ some letter := by
  refine ⟨fun handled => ?_, fun waits => (sound.waiting_elsewhere waits).2 posted⟩
  have distinct := sound.distinct
  unfold places at distinct
  rw [posted, List.append_assoc, List.nodup_append] at distinct
  exact distinct.2.2 _ handled _ (by simp) rfl

/-- A letter is somewhere: it was handled, waits or is posted. -/
theorem mem_places {letter : Nat} :
    letter ∈ delivery.places ↔
      letter ∈ delivery.handled ∨ delivery.waiting = some letter ∨
        delivery.posted = some letter := by
  simp only [places, List.mem_append, Option.mem_toList, or_assoc]

/-- Every letter is kept outside of the waiting slot just when that slot is free. -/
theorem kept_without_waiting (sound : delivery.Sound) :
    (∀ letter < delivery.sent, letter ∈ delivery.handled ∨ delivery.posted = some letter) ↔
      delivery.Complete ∧ delivery.waiting = none := by
  constructor
  · intro kept
    refine ⟨fun letter old => mem_places.mpr ((kept letter old).imp_right .inr), ?_⟩
    by_contra occupied
    obtain ⟨letter, waits⟩ := Option.ne_none_iff_exists'.mp occupied
    have old := sound.known letter (mem_places.mpr (.inr (.inl waits)))
    obtain ⟨unhandled, unposted⟩ := sound.waiting_elsewhere waits
    exact (kept letter old).elim unhandled unposted
  · rintro ⟨complete, free⟩ letter old
    have somewhere := mem_places.mp (complete letter old)
    rw [free] at somewhere
    exact somewhere.imp_right fun rest => rest.resolve_left (by simp)

theorem kept_without_posted (sound : delivery.Sound) :
    (∀ letter < delivery.sent, letter ∈ delivery.handled ∨ delivery.waiting = some letter) ↔
      delivery.Complete ∧ delivery.posted = none := by
  constructor
  · intro kept
    refine ⟨fun letter old => mem_places.mpr ((kept letter old).imp_right .inl), ?_⟩
    by_contra occupied
    obtain ⟨letter, posted⟩ := Option.ne_none_iff_exists'.mp occupied
    have old := sound.known letter (mem_places.mpr (.inr (.inr posted)))
    obtain ⟨unhandled, notWaiting⟩ := sound.posted_elsewhere posted
    exact (kept letter old).elim unhandled notWaiting
  · rintro ⟨complete, free⟩ letter old
    have somewhere := mem_places.mp (complete letter old)
    rw [free] at somewhere
    exact somewhere.imp_right fun rest => rest.resolve_right (by simp)

/-- Sending loses just the letter that waits. -/
theorem complete_send (listening : Bool) (sound : delivery.Sound) :
    (delivery.send listening).Complete ↔ delivery.Complete ∧ delivery.waiting = none := by
  refine (complete_settle listening).trans (Iff.trans ?_ (kept_without_waiting sound))
  constructor
  · intro complete letter old
    have somewhere := mem_places.mp (complete letter (Nat.lt_succ_of_lt old))
    simpa [Nat.ne_of_gt old] using somewhere
  · intro kept letter sent
    rcases Nat.lt_succ_iff_lt_or_eq.mp sent with old | rfl
    · exact mem_places.mpr ((kept letter old).imp_right .inr)
    · exact mem_places.mpr (.inr (.inl rfl))

/-- Posting loses just the letter that is posted. -/
theorem complete_post (sound : delivery.Sound) :
    delivery.post.Complete ↔ delivery.Complete ∧ delivery.posted = none := by
  refine Iff.trans ?_ (kept_without_posted sound)
  constructor
  · intro complete letter old
    have somewhere := mem_places.mp (complete letter (Nat.lt_succ_of_lt old))
    simpa [post, Nat.ne_of_gt old] using somewhere
  · intro kept letter sent
    rcases Nat.lt_succ_iff_lt_or_eq.mp sent with old | rfl
    · exact mem_places.mpr ((kept letter old).imp_right .inl)
    · exact mem_places.mpr (.inr (.inr rfl))

/-- A posted letter that begins to wait takes the place of just the letter that waits. -/
theorem complete_runPosted (listening : Bool) (sound : delivery.Sound)
    (pending : delivery.posted ≠ none) :
    (delivery.runPosted listening).Complete ↔ delivery.Complete ∧ delivery.waiting = none := by
  obtain ⟨moved, posted⟩ := Option.ne_none_iff_exists'.mp pending
  unfold runPosted
  rw [posted]
  refine (complete_settle listening).trans (Iff.trans ?_ (kept_without_waiting sound))
  have places (letter : Nat) :
      letter ∈ ({ delivery with posted := none, waiting := some moved } : Delivery).places ↔
        letter ∈ delivery.handled ∨ delivery.posted = some letter := by
    simp [mem_places, posted]
  exact forall₂_congr fun letter _ => places letter

end Delivery

end TermPlux
