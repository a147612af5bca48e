import Switchboard.Proofs.Registry.Identity

/-!
# A removed binding leaves no gap

A run that makes a binding and removes it is compared with the run that never makes it. In the
latter the numbers behind the missing one move up: `Entry.closeUp`. Whoever removes an entry there
removes the one with the number that it has there, and nobody can remove the entry that was never
made: `Change.without`.

* `Registry.ClosesUp`: a registry beside the one in which the binding was never made;
* `Registry.ClosesUp.apply`: every change keeps them so, and both give the same answer;
* `Registry.ClosesUp.resolve_eq`: what both find for an event;
* `resolve_without_trace`: the two runs as a whole.

Nothing is asked of the entries that a run removes; they may be made up.
-/

namespace Switchboard

variable {β : Type}

/-! ### Numbers that move up -/

namespace Token

/-- The identity where another one was never given away: behind that one the numbers of its registry
are less by one. -/
def closeUp (t gone : Token) : Token :=
  if t.registry = gone.registry ∧ gone.sequence < t.sequence then
    { t with sequence := t.sequence - 1 }
  else t

variable {gone t a b : Token}

/-- Moving up keeps identities apart. -/
theorem closeUp_inj (ha : a ≠ gone) (hb : b ≠ gone) : a.closeUp gone = b.closeUp gone ↔ a = b := by
  obtain ⟨i, k⟩ := gone
  obtain ⟨ia, ka⟩ := a
  obtain ⟨ib, kb⟩ := b
  simp only [ne_eq, mk.injEq, not_and] at ha hb
  simp only [closeUp]
  split <;> split <;> simp only [mk.injEq] <;> omega

/-- Moving up keeps the order of the numbers of the registry. -/
theorem sequence_closeUp_lt_iff (ha : a ≠ gone) (hb : b ≠ gone) (har : a.registry = gone.registry)
    (hbr : b.registry = gone.registry) :
    (a.closeUp gone).sequence < (b.closeUp gone).sequence ↔ a.sequence < b.sequence := by
  obtain ⟨i, k⟩ := gone
  obtain ⟨ia, ka⟩ := a
  obtain ⟨ib, kb⟩ := b
  simp only at har hbr
  subst har hbr
  simp only [ne_eq, mk.injEq, true_and] at ha hb
  simp only [closeUp, true_and]
  split <;> split <;> simp only <;> omega

/-- Identities that were given away earlier stay. -/
theorem closeUp_of_lt (h : t.sequence < gone.sequence) : t.closeUp gone = t := by
  rw [closeUp, if_neg]
  omega

/-- The next number of the registry moves up. -/
theorem closeUp_next {n : Nat} (h : gone.sequence ≤ n) :
    closeUp ⟨gone.registry, n + 1⟩ gone = ⟨gone.registry, n⟩ := by
  rw [closeUp, if_pos ⟨rfl, Nat.lt_succ_of_le h⟩]
  rfl

end Token

namespace Entry

/-- The entry where another one was never made. -/
def closeUp (e : Entry β) (gone : Token) : Entry β := { e with token := e.token.closeUp gone }

/-- The entries of a list where another one was never made. -/
def closedUp (l : List (Entry β)) (gone : Token) : List (Entry β) :=
  (l.filter fun e => e.token != gone).map fun e => e.closeUp gone

variable {gone : Token}

@[simp] theorem token_closeUp (e : Entry β) : (e.closeUp gone).token = e.token.closeUp gone := rfl

@[simp] theorem selector_closeUp (e : Entry β) : (e.closeUp gone).selector = e.selector := rfl

theorem mem_closedUp {e : Entry β} {l : List (Entry β)} :
    e ∈ closedUp l gone ↔ ∃ f ∈ l, f.token ≠ gone ∧ f.closeUp gone = e := by
  simp [closedUp, and_assoc]

theorem closedUp_append (l m : List (Entry β)) :
    closedUp (l ++ m) gone = closedUp l gone ++ closedUp m gone := by
  simp [closedUp]

theorem closedUp_singleton {e : Entry β} (h : e.token ≠ gone) :
    closedUp [e] gone = [e.closeUp gone] := by
  simp [closedUp, h]

theorem closedUp_singleton_self {e : Entry β} (h : e.token = gone) : closedUp [e] gone = [] := by
  simp [closedUp, h]

/-- Where the other one is not, nothing is left out. -/
theorem closedUp_of_ne {l : List (Entry β)} (h : ∀ e ∈ l, e.token ≠ gone) :
    closedUp l gone = l.map fun e => e.closeUp gone := by
  rw [closedUp, List.filter_eq_self.2 fun e he => bne_iff_ne.2 (h e he)]

/-- Entries that were made earlier stay. -/
theorem closedUp_of_lt {l : List (Entry β)} (h : ∀ e ∈ l, e.sequence < gone.sequence) :
    closedUp l gone = l := by
  have hne : ∀ e ∈ l, e.token ≠ gone := by
    intro e he ht
    have hlt := h e he
    rw [sequence, ht] at hlt
    exact lt_irrefl _ hlt
  rw [closedUp_of_ne hne]
  refine (List.map_congr_left fun e he => ?_).trans (List.map_id l)
  rw [closeUp, Token.closeUp_of_lt (h e he)]
  rfl

/-- What is looked at in an entry besides its number stays, so it may be looked at before. -/
theorem closedUp_filter_selector (p : Selector → Bool) (l : List (Entry β)) :
    (closedUp l gone).filter (fun e => p e.selector) =
      closedUp (l.filter fun e => p e.selector) gone := by
  rw [closedUp, List.filter_map, List.filter_comm]
  rfl

/-- Another entry may be taken out before or after. -/
theorem closedUp_filter_token {t : Token} (ht : t ≠ gone) (l : List (Entry β)) :
    (closedUp l gone).filter (fun e => e.token != t.closeUp gone) =
      closedUp (l.filter fun e => e.token != t) gone := by
  unfold closedUp
  rw [List.filter_map, List.filter_filter, List.filter_filter]
  congr 1
  refine List.filter_congr fun e _ => ?_
  by_cases he : e.token = gone
  · simp [he]
  · have htoken : (e.token.closeUp gone == t.closeUp gone) = (e.token == t) := by
      rw [Bool.eq_iff_iff, beq_iff_eq, beq_iff_eq, Token.closeUp_inj he ht]
    simp [bne, htoken, Bool.and_comm]

/-- Ranking goes by priorities, which stay. -/
theorem ranked_closedUp {l : List (Entry β)} (h : Ascending l) :
    ranked (closedUp l gone) = closedUp (ranked l) gone := by
  unfold closedUp
  rw [filter_ranked h]
  unfold ranked
  exact (List.map_mergeSort (f := fun e : Entry β => e.closeUp gone) fun a _ b _ => rfl).symm

end Entry

/-! ### Changes where a binding was never made -/

/-- The change where an entry was never made. Nobody can remove that one. -/
def Change.without (gone : Token) : Change β → Option (Change β)
  | .unregister e => if e.token = gone then none else some (.unregister (e.closeUp gone))
  | c => some c

/-- The answer where another entry was never made. -/
def Answer.closeUp (gone : Token) : Answer β → Answer β
  | .registered r => .registered (r.map fun e => e.closeUp gone)
  | a => a

namespace Registry

/-! ### Removing whatever entry, once more -/

/-- A removal finds what is stored. -/
theorem unregister_fst (r : Registry β) (e : Entry β) : (r.unregister e).1 = r.contains e := by
  unfold unregister
  split
  next hc => cases e.selector.isPattern <;> simp [hc]
  next hc => simpa using hc

namespace Represents

variable {r : Registry β} {live : List (Entry β)}

/-- An entry is found exactly if some live binding has its token and is looked for in the same list.
-/
theorem contains_iff_exists (h : r.Represents live) (e : Entry β) :
    r.contains e = true ↔
      ∃ f ∈ live, f.token = e.token ∧ f.selector.isPattern = e.selector.isPattern ∧
        (e.selector.isPattern = false → f.selector.name = e.selector.name) := by
  refine ⟨h.exists_of_contains, ?_⟩
  rintro ⟨f, hf, ht, hp, hn⟩
  rw [← unregister_fst, ← unregister_congr r ht hp hn, unregister_fst]
  exact (h.contains_iff (h.knows_of_mem hf)).2 hf

/-- Removing an entry, be it made up, takes out the binding with its token if it is found. -/
theorem unregister_eq (h : r.Represents live) (e : Entry β) :
    (r.unregister e).2.Represents
      (if r.contains e then live.filter fun f => f.token != e.token else live) := by
  split
  next hc =>
    obtain ⟨f, hf, ht, hp, hn⟩ := h.exists_of_contains hc
    rw [← unregister_congr r ht hp hn, ← ht]
    exact h.unregister (h.knows_of_mem hf)
  next hc =>
    rw [unregister_of_not_contains (Bool.not_eq_true _ ▸ hc)]
    exact h

end Represents

/-! ### Two registries -/

/-- A registry with the bindings of a list, and the same registry where one binding was never
made. -/
structure ClosesUp (gone : Token) (r r' : Registry β) (live : List (Entry β)) : Prop where
  represents : r.Represents live
  closed : r'.Represents (Entry.closedUp live gone)
  id : r'.id = r.id
  registry : gone.registry = r.id
  next : r.nextSequence = r'.nextSequence + 1
  below : gone.sequence ≤ r'.nextSequence

namespace ClosesUp

variable {gone : Token} {r r' : Registry β} {live : List (Entry β)}

/-- A registry with a new binding, beside the one without it. -/
theorem start (h : r.Represents live) {s : Selector} {hd : Handler β} {p : Int} {e : Entry β}
    (he : (r.apply (.register s hd p)).1 = .registered (.ok e)) :
    ClosesUp e.token (r.apply (.register s hd p)).2 r (live ++ [e]) := by
  obtain ⟨rfl, hadd⟩ := newEntry_of_registered he
  rw [hadd]
  refine ⟨h.add rfl rfl, ?_, (id_add r _).symm, (id_add r _).symm, nextSequence_add r _, le_rfl⟩
  have hlive : Entry.closedUp live (r.newEntry s hd p).token = live :=
    Entry.closedUp_of_lt fun e he => (h.numbered e he).2
  rw [Entry.closedUp_append, hlive, Entry.closedUp_singleton_self rfl, List.append_nil]
  exact h

/-- The next entry of one registry is the next one of the other, moved up. -/
theorem newEntry_eq (h : ClosesUp gone r r' live) (s : Selector) (hd : Handler β) (p : Int) :
    r'.newEntry s hd p = (r.newEntry s hd p).closeUp gone := by
  rw [newEntry, newEntry, Entry.closeUp, h.next, ← h.registry, Token.closeUp_next h.below, h.id,
    h.registry]

/-- The next entry has another identity than the missing one. -/
theorem token_newEntry_ne (h : ClosesUp gone r r' live) (s : Selector) (hd : Handler β) (p : Int) :
    (r.newEntry s hd p).token ≠ gone := by
  intro ht
  have hsequence : r.nextSequence = gone.sequence := congrArg Token.sequence ht
  have := h.next
  have := h.below
  omega

/-- Both registries get the same new binding, or refuse it. -/
theorem register (h : ClosesUp gone r r' live) (s : Selector) (hd : Handler β) (p : Int) :
    (r'.apply (.register s hd p)).1 = (r.apply (.register s hd p)).1.closeUp gone ∧
      ∃ rest, ClosesUp gone (r.apply (.register s hd p)).2 (r'.apply (.register s hd p)).2 rest := by
  rw [apply_register, apply_register]
  cases hd.invocable with
  | false => exact ⟨rfl, live, h⟩
  | true =>
    have hne := h.token_newEntry_ne s hd p
    have hnew := h.newEntry_eq s hd p
    simp only [if_true]
    refine ⟨congrArg (fun e => Answer.registered (.ok e)) hnew, live ++ [r.newEntry s hd p], ?_⟩
    refine ⟨h.represents.add rfl rfl, ?_, ?_, ?_, ?_, ?_⟩
    · rw [Entry.closedUp_append, Entry.closedUp_singleton hne, ← hnew]
      exact h.closed.add rfl rfl
    · rw [id_add, id_add, h.id]
    · rw [id_add, h.registry]
    · rw [nextSequence_add, nextSequence_add, h.next]
    · rw [nextSequence_add]
      exact Nat.le_succ_of_le h.below

/-- Both registries find the same entries, the missing one apart. -/
theorem contains_eq (h : ClosesUp gone r r' live) {e : Entry β} (he : e.token ≠ gone) :
    r'.contains (e.closeUp gone) = r.contains e := by
  rw [Bool.eq_iff_iff, h.closed.contains_iff_exists, h.represents.contains_iff_exists]
  constructor
  · rintro ⟨f', hf', ht, hselector⟩
    obtain ⟨f, hf, hne, rfl⟩ := Entry.mem_closedUp.1 hf'
    exact ⟨f, hf, (Token.closeUp_inj hne he).1 ht, hselector⟩
  · rintro ⟨f, hf, ht, hselector⟩
    have hne : f.token ≠ gone := ht ▸ he
    exact ⟨f.closeUp gone, Entry.mem_closedUp.2 ⟨f, hf, hne, rfl⟩,
      (Token.closeUp_inj hne he).2 ht, hselector⟩

/-- Both registries lose the same binding. -/
theorem unregister (h : ClosesUp gone r r' live) {e : Entry β} (he : e.token ≠ gone) :
    (r'.unregister (e.closeUp gone)).1 = (r.unregister e).1 ∧
      ∃ rest, ClosesUp gone (r.unregister e).2 (r'.unregister (e.closeUp gone)).2 rest := by
  have hcontains := h.contains_eq he
  refine ⟨by rw [unregister_fst, unregister_fst, hcontains], _, h.represents.unregister_eq e, ?_,
    ?_, ?_, ?_, ?_⟩
  · have hclosed := h.closed.unregister_eq (e.closeUp gone)
    rw [hcontains, Entry.token_closeUp, Entry.closedUp_filter_token he] at hclosed
    split
    next hc => rwa [if_pos hc] at hclosed
    next hc => rwa [if_neg hc] at hclosed
  · rw [id_unregister, id_unregister, h.id]
  · rw [id_unregister, h.registry]
  · rw [nextSequence_unregister, nextSequence_unregister, h.next]
  · rw [nextSequence_unregister]
    exact h.below

/-- The missing binding is lost by the one registry that has it. -/
theorem unregister_gone (h : ClosesUp gone r r' live) {e : Entry β} (he : e.token = gone) :
    ∃ rest, ClosesUp gone (r.unregister e).2 r' rest := by
  refine ⟨_, h.represents.unregister_eq e, ?_, ?_, ?_, ?_, h.below⟩
  · have hfilter : Entry.closedUp (live.filter fun f => f.token != e.token) gone =
        Entry.closedUp live gone := by
      rw [Entry.closedUp, Entry.closedUp, List.filter_filter, he]
      simp
    split
    next => rw [hfilter]; exact h.closed
    next => exact h.closed
  · rw [id_unregister, h.id]
  · rw [id_unregister, h.registry]
  · rw [nextSequence_unregister, h.next]

theorem clear (h : ClosesUp gone r r' live) : ClosesUp gone r.clear r'.clear [] :=
  ⟨represents_clear r, represents_clear r', h.id, h.registry, h.next, h.below⟩

/-- A change on one side and what it is on the other give the same answer, and the registries stay
beside each other. -/
theorem apply (h : ClosesUp gone r r' live) {c c' : Change β} (hc : c.without gone = some c') :
    (r'.apply c').1 = (r.apply c).1.closeUp gone ∧
      ∃ rest, ClosesUp gone (r.apply c).2 (r'.apply c').2 rest := by
  cases c with
  | register s hd p =>
    cases hc
    exact h.register s hd p
  | unregister e =>
    simp only [Change.without] at hc
    split at hc
    next => cases hc
    next he =>
      cases hc
      obtain ⟨hflag, hrest⟩ := h.unregister he
      exact ⟨congrArg Answer.removed hflag, hrest⟩
  | clear =>
    cases hc
    exact ⟨rfl, [], h.clear⟩

/-- A change that is left out on one side keeps the registries beside each other. -/
theorem apply_none (h : ClosesUp gone r r' live) {c : Change β} (hc : c.without gone = none) :
    ∃ rest, ClosesUp gone (r.apply c).2 r' rest := by
  cases c with
  | register s hd p => cases hc
  | clear => cases hc
  | unregister e =>
    simp only [Change.without] at hc
    split at hc
    next he => exact h.unregister_gone he
    next => cases hc

theorem run (h : ClosesUp gone r r' live) (changes : List (Change β)) :
    ∃ rest, ClosesUp gone (r.run changes).2
      (r'.run (changes.filterMap (Change.without gone))).2 rest := by
  induction changes generalizing r r' live with
  | nil => exact ⟨live, h⟩
  | cons c changes ih =>
    rw [List.filterMap_cons]
    cases hc : c.without gone with
    | none =>
      obtain ⟨rest, hrest⟩ := h.apply_none hc
      exact ih hrest
    | some c' =>
      obtain ⟨-, rest, hrest⟩ := h.apply hc
      exact ih hrest

/-- What one registry finds for an event is what the other finds, without the missing binding. -/
theorem resolve_eq (h : ClosesUp gone r r' live) (event : String) :
    r'.resolve event = Entry.closedUp (r.resolve event) gone := by
  rw [h.closed.resolve_eq, h.represents.resolve_eq,
    Entry.closedUp_filter_selector fun s => s.accepts event,
    Entry.ranked_closedUp (h.represents.ascending.filter _)]

/-- The numbers of what is stored stand in the same order on both sides. -/
theorem sequence_lt_iff (h : ClosesUp gone r r' live) {a b : Entry β} (ha : r.Stores a)
    (hb : r.Stores b) (hag : a.token ≠ gone) (hbg : b.token ≠ gone) :
    (a.closeUp gone).sequence < (b.closeUp gone).sequence ↔ a.sequence < b.sequence := by
  have hregistry : ∀ e, r.Stores e → e.token.registry = gone.registry := fun e he =>
    (h.represents.numbered e (h.represents.stores_iff.1 he)).1.trans h.registry.symm
  exact Token.sequence_closeUp_lt_iff hag hbg (hregistry a ha) (hregistry b hb)

end ClosesUp

/-- Once an entry has been given out and removed, nothing is stored under its identity. -/
theorem Numbered.used_unregister {r : Registry β} (h : r.Numbered) {live : List (Entry β)}
    (hlive : r.Represents live) {s : Selector} {hd : Handler β} {p : Int} {e : Entry β}
    (he : (r.apply (.register s hd p)).1 = .registered (.ok e)) (between after : List (Change β)) :
    ((r.apply (.register s hd p)).2.run (between ++ .unregister e :: after)).2.Used e.token
      fun _ => False := by
  obtain ⟨held, hheld⟩ := hlive.run_any (.register s hd p :: between)
  have hused := (h.used he).run between
  rw [run_append]
  refine Used.run (Used.gone (hused.apply (.unregister e)) (hheld.unregister_eq e) ?_) after
  exact hused.not_contains_unregister hheld

end Registry

/-- A registry has come through a run and makes a binding, which it later removes. Beside it stands
the registry that does not make it: there is no removal of its entry either, and the numbers behind
the missing one have moved up. As long as the binding is there, the second registry finds for an
event what the first one finds, without that binding. Once it has been removed, and whatever is done
then, both find the same entries in the same order, which differ in their numbers only, and the
numbers of all that is stored stand in the same order. At each of these times every further change
gives the same answer on both sides, so entries that are given out correspond too. -/
theorem resolve_without_trace (id : Nat) (before between after : List (Change β)) {s : Selector}
    {hd : Handler β} {p : Int} {e : Entry β}
    (he : (((Registry.empty id).run before).2.apply (.register s hd p)).1 = .registered (.ok e)) :
    let without (changes : List (Change β)) := changes.filterMap (Change.without e.token)
    let r := ((Registry.empty id).run before).2
    let made := (r.apply (.register s hd p)).2
    let held := (made.run between).2
    let spared := (r.run (without between)).2
    let left := (made.run (between ++ .unregister e :: after)).2
    let never := (r.run (without (between ++ after))).2
    (∀ event, spared.resolve event =
        ((held.resolve event).filter fun f => f.token != e.token).map fun f => f.closeUp e.token) ∧
      (∀ event, never.resolve event = (left.resolve event).map fun f => f.closeUp e.token) ∧
      (∀ a b, left.Stores a → left.Stores b →
        ((a.closeUp e.token).sequence < (b.closeUp e.token).sequence ↔ a.sequence < b.sequence)) ∧
      ∀ c c', c.without e.token = some c' →
        (spared.apply c').1 = (held.apply c).1.closeUp e.token ∧
          (never.apply c').1 = (left.apply c).1.closeUp e.token := by
  intro without r made held spared left never
  obtain ⟨live, hlive⟩ := (Registry.represents_empty id).run_any before
  have hstart := Registry.ClosesUp.start hlive he
  obtain ⟨_, hheld⟩ := hstart.run between
  have hnever : never = (r.run (without (between ++ .unregister e :: after))).2 := by
    -- the removal of the entry itself is none of the changes on the other side
    simp [never, without, Change.without, List.filterMap_append]
  obtain ⟨_, hleft⟩ : ∃ live, Registry.ClosesUp e.token left never live := by
    rw [hnever]
    exact hstart.run (between ++ .unregister e :: after)
  have hgone : ∀ f, left.Stores f → f.token ≠ e.token :=
    (((Registry.numbered_empty id).run before).used_unregister hlive he between after).stored
  refine ⟨hheld.resolve_eq, fun event => ?_, fun a b ha hb => ?_, fun c c' hc => ?_⟩
  · rw [hleft.resolve_eq]
    exact Entry.closedUp_of_ne fun f hf => hgone f (Registry.stores_of_mem_resolve hf)
  · exact hleft.sequence_lt_iff ha hb (hgone a ha) (hgone b hb)
  · exact ⟨(hheld.apply hc).1, (hleft.apply hc).1⟩

/-- Bindings of one priority, of a plain name and of a pattern by turns. The entry of number one is
that of a pattern. -/
def turnEntry (sequence : Nat) : Entry Unit :=
  let selector : Selector :=
    if sequence % 2 = 0 then ⟨.exact, "offer", Selector.isName_offer⟩
    else ⟨.beginsWith, "offer", Selector.isName_offer⟩
  ⟨⟨0, sequence⟩, selector, 3, .ofBody "audit" ()⟩

/-- The registration that gives such an entry out. -/
def turnChange (sequence : Nat) : Change Unit :=
  .register (turnEntry sequence).selector (turnEntry sequence).handler 3

theorem resolve_without_trace_turns :
    (((Registry.empty 0).run [turnChange 0]).2.apply (turnChange 1)).1 =
        .registered (.ok (turnEntry 1)) ∧
      (((Registry.empty 0).run [turnChange 0, turnChange 1, turnChange 2, .unregister (turnEntry 1),
        turnChange 3, .unregister (turnEntry 2)]).2.resolve "offer").map Entry.token =
          [⟨0, 0⟩, ⟨0, 3⟩] ∧
      (((Registry.empty 0).run [turnChange 0, turnChange 2, turnChange 3,
        .unregister ((turnEntry 2).closeUp ⟨0, 1⟩)]).2.resolve "offer").map Entry.token =
          [⟨0, 0⟩, ⟨0, 2⟩] := by
  have he : (((Registry.empty 0).run [turnChange 0]).2.apply (turnChange 1)).1 =
      .registered (.ok (turnEntry 1)) := rfl
  obtain ⟨-, hnever, -⟩ := resolve_without_trace 0 [turnChange 0] [turnChange 2]
    [turnChange 3, .unregister (turnEntry 2)] he
  have hleft : (((Registry.empty 0).run [turnChange 0, turnChange 1, turnChange 2,
      .unregister (turnEntry 1), turnChange 3, .unregister (turnEntry 2)]).2.resolve "offer").map
        Entry.token = [⟨0, 0⟩, ⟨0, 3⟩] := by
    decide +kernel
  refine ⟨he, hleft, ?_⟩
  refine (congrArg (List.map Entry.token) (hnever "offer")).trans ?_
  rw [List.map_map]
  show List.map ((fun t => t.closeUp ⟨0, 1⟩) ∘ Entry.token) _ = _
  rw [← List.map_map]
  exact congrArg (List.map fun t => t.closeUp ⟨0, 1⟩) hleft

end Switchboard
