import Switchboard.Proofs.Registry.Store
import Switchboard.Proofs.Selector.Grammar

/-!
# A registry behaves as one flat list

A `Roster` is the plainest way to keep bindings: the list of all entries that were ever made and
the list of those that are live, each in order of registration. A run is a list of changes,
registrations, removals and clearings in any order; registry and roster go through it side by side.

* `Roster.Keeps`: a roster and a registry that hold the same bindings;
* `Roster.Keeps.apply`: every change keeps it so, and both give the same answer;
* `run_refines_roster`: after every run from an empty registry, all that can be read off it is read
  off the roster's list of live bindings.

Nobody can make up an entry: whoever holds one has it from a registration, here or in another
registry. `Roster.Genuine` says so of an entry and `Roster.Admits` of those that a run removes.
-/

namespace Switchboard

variable {β : Type}

/-- One change of a registry. -/
inductive Change (β : Type) where
  | register (selector : Selector) (handler : Handler β) (priority : Int)
  | unregister (entry : Entry β)
  | clear

/-- What a change answers. -/
inductive Answer (β : Type) where
  | registered (result : Except EngineError (Entry β))
  | removed (found : Bool)
  | cleared

/-- All entries that were ever made and those that are live, in order of registration. -/
structure Roster (β : Type) where
  id : Nat
  made : List (Entry β)
  live : List (Entry β)

namespace Registry

/-- Makes a change. -/
def apply (r : Registry β) : Change β → Answer β × Registry β
  | .register s h p => (.registered (r.register s h p).1, (r.register s h p).2)
  | .unregister e => (.removed (r.unregister e).1, (r.unregister e).2)
  | .clear => (.cleared, r.clear)

/-- Makes changes one after the other. -/
def run (r : Registry β) : List (Change β) → List (Answer β) × Registry β
  | [] => ([], r)
  | c :: rest => ((r.apply c).1 :: ((r.apply c).2.run rest).1, ((r.apply c).2.run rest).2)

theorem run_append (r : Registry β) (first second : List (Change β)) :
    (r.run (first ++ second)).2 = ((r.run first).2.run second).2 := by
  induction first generalizing r with
  | nil => rfl
  | cons c rest ih => exact ih (r.apply c).2

/-- A registration makes the next entry, or is refused and leaves the registry as it is. -/
theorem apply_register (r : Registry β) (s : Selector) (h : Handler β) (p : Int) :
    r.apply (.register s h p) =
      if h.invocable then (.registered (.ok (r.newEntry s h p)), r.add (r.newEntry s h p))
      else (.registered (.error (.invalidCallback (.notInvocable h.name s.text))), r) := by
  rw [apply, register_eq]
  cases h.invocable <;> rfl

/-- A registration that gives an entry out has made the next one. -/
theorem newEntry_of_registered {r : Registry β} {s : Selector} {h : Handler β} {p : Int}
    {e : Entry β} (he : (r.apply (.register s h p)).1 = .registered (.ok e)) :
    e = r.newEntry s h p ∧ (r.apply (.register s h p)).2 = r.add e := by
  rw [apply_register] at he ⊢
  split at he
  next hinvocable =>
    cases he
    exact ⟨rfl, congrArg Prod.snd (if_pos hinvocable)⟩
  next => cases he

@[simp] theorem id_apply (r : Registry β) (c : Change β) : (r.apply c).2.id = r.id := by
  cases c with
  | register s h p =>
    rw [apply_register]
    split
    · exact id_add r _
    · rfl
  | unregister e => exact id_unregister r e
  | clear => rfl

/-- Numbers are never given back. -/
theorem nextSequence_le_apply (r : Registry β) (c : Change β) :
    r.nextSequence ≤ (r.apply c).2.nextSequence := by
  cases c with
  | register s h p =>
    rw [apply_register]
    split
    · exact (Nat.le_succ _).trans (nextSequence_add r _).ge
    · exact le_rfl
  | unregister e => exact (nextSequence_unregister r e).ge
  | clear => exact le_rfl

@[simp] theorem id_run (r : Registry β) (changes : List (Change β)) :
    (r.run changes).2.id = r.id := by
  induction changes generalizing r with
  | nil => rfl
  | cons c rest ih => exact (ih (r.apply c).2).trans (id_apply r c)

theorem nextSequence_le_run (r : Registry β) (changes : List (Change β)) :
    r.nextSequence ≤ (r.run changes).2.nextSequence := by
  induction changes generalizing r with
  | nil => exact le_rfl
  | cons c rest ih => exact (nextSequence_le_apply r c).trans (ih (r.apply c).2)

end Registry

namespace Roster

/-- A roster without bindings. -/
def empty (id : Nat) : Roster β := ⟨id, [], []⟩

/-- Makes a change: a handler that can be invoked gets a new entry at the end of both lists, a
removed binding leaves the list of live ones, and clearing empties that list. -/
def apply (ρ : Roster β) : Change β → Answer β × Roster β
  | .register s h p =>
    if h.invocable then
      let e : Entry β := ⟨⟨ρ.id, ρ.made.length⟩, s, p, h⟩
      (.registered (.ok e), { ρ with made := ρ.made ++ [e], live := ρ.live ++ [e] })
    else (.registered (.error (.invalidCallback (.notInvocable h.name s.text))), ρ)
  | .unregister e =>
    (.removed (ρ.live.any fun f => f.token == e.token),
      { ρ with live := ρ.live.filter fun f => f.token != e.token })
  | .clear => (.cleared, { ρ with live := [] })

/-- Makes changes one after the other. -/
def run (ρ : Roster β) : List (Change β) → List (Answer β) × Roster β
  | [] => ([], ρ)
  | c :: rest => ((ρ.apply c).1 :: ((ρ.apply c).2.run rest).1, ((ρ.apply c).2.run rest).2)

/-- An entry that somebody can hold: one that was made here, or one of another registry. -/
def Genuine (ρ : Roster β) (e : Entry β) : Prop := e ∈ ρ.made ∨ e.token.registry ≠ ρ.id

/-- Each entry that is to be removed can be held at that time. -/
def Admits (ρ : Roster β) : List (Change β) → Prop
  | [] => True
  | c :: rest => (∀ e, c = .unregister e → ρ.Genuine e) ∧ (ρ.apply c).2.Admits rest

/-- The roster and the registry hold the same bindings and will number the next one alike. -/
structure Keeps (ρ : Roster β) (r : Registry β) : Prop where
  id : r.id = ρ.id
  next : r.nextSequence = ρ.made.length
  represents : r.Represents ρ.live
  sublist : ρ.live.Sublist ρ.made
  tokens : ∀ i (e : Entry β), ρ.made[i]? = some e → e.token = ⟨ρ.id, i⟩

theorem keeps_empty (id : Nat) : (empty id : Roster β).Keeps (Registry.empty id) where
  id := rfl
  next := rfl
  represents := Registry.represents_empty id
  sublist := List.Sublist.refl _
  tokens := by simp [empty]

namespace Keeps

variable {ρ : Roster β} {r : Registry β}

/-- Two entries that were made with one token are one entry. -/
theorem eq_of_token (h : ρ.Keeps r) {e f : Entry β} (he : e ∈ ρ.made) (hf : f ∈ ρ.made)
    (ht : f.token = e.token) : f = e := by
  obtain ⟨i, hi⟩ := List.mem_iff_getElem?.1 he
  obtain ⟨j, hj⟩ := List.mem_iff_getElem?.1 hf
  have hij : j = i := by
    rw [h.tokens i e hi, h.tokens j f hj] at ht
    exact congrArg Token.sequence ht
  rw [hij, hi] at hj
  exact (Option.some.inj hj).symm

theorem knows (h : ρ.Keeps r) {e : Entry β} (he : ρ.Genuine e) :
    Registry.Represents.Knows ρ.live e := by
  intro f hf ht
  rcases he with he | he
  · exact h.eq_of_token he (h.sublist.subset hf) ht
  · rw [← ht, (h.represents.numbered f hf).1, h.id] at he
    exact absurd rfl he

/-- A registration gives both the same new binding, or is refused by both. -/
theorem register (h : ρ.Keeps r) (s : Selector) (hd : Handler β) (p : Int) :
    (r.apply (.register s hd p)).1 = (ρ.apply (.register s hd p)).1 ∧
      (ρ.apply (.register s hd p)).2.Keeps (r.apply (.register s hd p)).2 := by
  simp only [Registry.apply_register, Roster.apply]
  cases hd.invocable with
  | false => exact ⟨rfl, h⟩
  | true =>
    have he : r.newEntry s hd p = ⟨⟨ρ.id, ρ.made.length⟩, s, p, hd⟩ := by
      rw [Registry.newEntry, h.id, h.next]
    have hrep := h.represents.add (e := r.newEntry s hd p) rfl rfl
    simp only [if_true]
    rw [he] at hrep ⊢
    refine ⟨rfl, ?_, ?_, hrep, h.sublist.append_right _, fun i e hi => ?_⟩
    · rw [Registry.id_add, h.id]
    · rw [Registry.nextSequence_add, h.next, List.length_append, List.length_singleton]
    · rw [List.getElem?_append] at hi
      split at hi
      · exact h.tokens i e hi
      · obtain ⟨hlt, rfl⟩ := List.getElem?_eq_some_iff.1 hi
        have hi' : i = ρ.made.length := by
          rw [List.length_singleton] at hlt
          omega
        subst hi'
        simp

/-- Every change keeps roster and registry together, and both give the same answer. -/
theorem apply (h : ρ.Keeps r) (c : Change β) (hc : ∀ e, c = .unregister e → ρ.Genuine e) :
    (r.apply c).1 = (ρ.apply c).1 ∧ (ρ.apply c).2.Keeps (r.apply c).2 := by
  cases c with
  | register s hd p => exact h.register s hd p
  | clear =>
    exact ⟨rfl, h.id, h.next, Registry.represents_clear r, List.nil_sublist _, h.tokens⟩
  | unregister e =>
    have hknows := h.knows (hc e rfl)
    have hflag : (r.unregister e).1 = ρ.live.any fun f => f.token == e.token := by
      rw [Bool.eq_iff_iff, h.represents.unregister_flag hknows,
        Registry.Represents.mem_iff_token hknows, List.any_eq_true]
      simp only [beq_iff_eq]
    refine ⟨congrArg Answer.removed hflag, ?_, ?_, h.represents.unregister hknows,
      List.filter_sublist.trans h.sublist, h.tokens⟩
    · exact (Registry.id_unregister r e).trans h.id
    · exact (Registry.nextSequence_unregister r e).trans h.next

/-- A whole run keeps roster and registry together, with the same answers. -/
theorem run {changes : List (Change β)} (h : ρ.Keeps r) (hc : ρ.Admits changes) :
    (r.run changes).1 = (ρ.run changes).1 ∧ (ρ.run changes).2.Keeps (r.run changes).2 := by
  induction changes generalizing ρ r with
  | nil => exact ⟨rfl, h⟩
  | cons c rest ih =>
    obtain ⟨hanswer, hkeeps⟩ := h.apply c hc.1
    obtain ⟨hanswers, hrest⟩ := ih hkeeps hc.2
    exact ⟨congrArg₂ List.cons hanswer hanswers, hrest⟩

end Keeps

end Roster

/-- After every run from an empty registry, with a roster going through the same changes: both have
given the same answers; the entries for an event are the live bindings that accept it, those of
higher priority first and of one priority in order of registration; an entry is stored, and can be
removed, exactly if it is live; and the counts are those of the live bindings. -/
theorem run_refines_roster (id : Nat) (changes : List (Change β))
    (h : (Roster.empty id).Admits changes) :
    let r := (Registry.empty id).run changes
    let ρ := (Roster.empty id).run changes
    r.1 = ρ.1 ∧
      (ρ.2.live.map Entry.token).Nodup ∧
      (∀ event, r.2.resolve event =
        (ρ.2.live.filter fun e => e.selector.accepts event).mergeSort
          fun a b => b.priority ≤ a.priority) ∧
      (∀ event, (r.2.resolve event).Pairwise fun a b =>
        b.priority < a.priority ∨ a.priority = b.priority ∧ [a, b].Sublist ρ.2.live) ∧
      (∀ e, ρ.2.Genuine e →
        (r.2.contains e = true ↔ e ∈ ρ.2.live) ∧
        ((r.2.unregister e).1 = true ↔ e ∈ ρ.2.live)) ∧
      r.2.count = ρ.2.live.length ∧
      r.2.exactCount = (ρ.2.live.filter fun e => !e.selector.isPattern).length ∧
      r.2.patternCount = (ρ.2.live.filter fun e => e.selector.isPattern).length := by
  intro r ρ
  obtain ⟨hanswers, hkeeps⟩ := (Roster.keeps_empty id).run h
  have hrep := hkeeps.represents
  refine ⟨hanswers, ?_, hrep.resolve_eq, ?_, ?_, hrep.count_eq, hrep.exactCount_eq,
    hrep.patternCount_eq⟩
  · exact List.pairwise_map.2 (hrep.ascending.imp fun hab he =>
      Nat.ne_of_lt hab (congrArg Token.sequence he))
  · intro event
    have hlive := hrep.ascending.filter fun e => e.selector.accepts event
    rw [hrep.resolve_eq]
    refine (Entry.ordered_ranked hlive).imp_of_mem fun {a b} ha hb hab => ?_
    have ha := List.mem_of_mem_filter (Entry.mem_ranked.1 ha)
    have hb := List.mem_of_mem_filter (Entry.mem_ranked.1 hb)
    exact (Entry.before_iff.1 hab).imp_right fun hab =>
      ⟨hab.1, hrep.ascending.pair_sublist ha hb hab.2⟩
  · intro e he
    exact ⟨hrep.contains_iff (hkeeps.knows he), hrep.unregister_flag (hkeeps.knows he)⟩

/-- Two bindings of a plain name at the ends of the priorities, a pattern between them and a handler
that is refused; then the first binding is removed, and so is an entry of another registry. -/
def mixedChanges : List (Change Unit) :=
  let plain : Selector := ⟨.exact, "offer.accept", by decide⟩
  let pattern : Selector := ⟨.beginsWith, "offer", Selector.isName_offer⟩
  let first : Entry Unit := ⟨⟨0, 0⟩, plain, Nat.pow 2 63 - 1, .ofBody "first" ()⟩
  [.register plain first.handler first.priority,
    .register plain (.ofBody "last" ()) (-(Nat.pow 2 63 : Int)),
    .register pattern (.ofBody "audit" ()) 5, .register plain ⟨"closed", false, ()⟩ 7,
    .unregister first, .unregister { first with token := ⟨1, 1⟩ }]

theorem run_refines_roster_mixed :
    (Roster.empty 0).Admits mixedChanges ∧
      (((Registry.empty 0).run mixedChanges).2.resolve "offer.accept").map Entry.token =
        [⟨0, 2⟩, ⟨0, 1⟩] ∧
      ((Registry.empty 0).run mixedChanges).2.count = 2 := by
  have h : (Roster.empty 0).Admits mixedChanges := by
    simp [mixedChanges, Roster.Admits, Roster.apply, Roster.Genuine, Roster.empty, Handler.ofBody]
  obtain ⟨-, -, hresolve, -, -, hcount, -⟩ := run_refines_roster 0 mixedChanges h
  refine ⟨h, ?_, hcount.trans rfl⟩
  rw [hresolve]
  show (Entry.ranked _).map _ = _
  rw [← Entry.sort_eq_ranked (by unfold Entry.Ascending; decide)]
  rfl

end Switchboard
