import Mathlib.Data.List.TakeWhile
import Switchboard.Files.Path

/-!
# Names and directories of paths

A path inside of a directory has the name that has been joined to the directory, and the directory,
apart from what does not count at its end, is the path without that name. A name is its stem, a
point and its extension.

* `Path.IsName`, `Path.trimmed`: texts that can be the last name of a path, and the spelling of a
  directory that `Path.parent?` gives;
* `Path.name?_join`, `Path.parent?_join`: taking a path apart that has been put together;
* `Path.exists_parent`: a path with a name has a directory;
* `Path.splitAtPoint_eq_iff`, `Path.stem?_of_name`, `Path.exists_name_of_extension?`: names with an
  extension.
-/

namespace Switchboard.Path

/-- A text that can be the last name of a path. -/
structure IsName (name : String) : Prop where
  slash : '/' ∉ name.toList
  empty : name ≠ ""
  here : name ≠ "."
  above : name ≠ ".."

/-- A name is any text without slashes that is long enough. -/
theorem isName_of_length {name : String} (hslash : '/' ∉ name.toList)
    (hlength : 2 < name.toList.length) : IsName name := by
  refine ⟨hslash, ?_, ?_, ?_⟩
  all_goals
    rintro rfl
    exact absurd hlength (by decide)

/-- A path without what does not count at its end. -/
def trimmed (path : String) : String := String.ofList (reversed path).reverse

theorem inName_eq_true_iff {c : Char} : inName c = true ↔ c ≠ '/' := by simp [inName]

theorem IsName.inName_of_mem {name : String} (h : IsName name) :
    ∀ c ∈ name.toList.reverse, inName c = true := by
  intro c hc
  rw [inName_eq_true_iff]
  rintro rfl
  exact h.slash (List.mem_reverse.1 hc)

/-! ### The end of a path -/

/-- A name at the end of a path counts. -/
theorem trimEnd_append {front : List Char} (hslash : '/' ∉ front) (hnil : front ≠ [])
    (hdot : front ≠ ['.']) (tail : List Char) : trimEnd (front ++ tail) = front ++ tail := by
  cases front with
  | nil => exact absurd rfl hnil
  | cons c front =>
    unfold trimEnd
    split
    next rest h =>
      cases (List.cons.inj h).1
      exact absurd List.mem_cons_self hslash
    next rest h =>
      obtain ⟨rfl, hrest⟩ := List.cons.inj h
      cases front with
      | nil => exact absurd rfl hdot
      | cons d front =>
        obtain rfl : d = '/' := (List.cons.inj hrest).1
        exact absurd (List.mem_cons_of_mem _ List.mem_cons_self) hslash
    next => rfl

theorem trimEnd_trimEnd (cs : List Char) : trimEnd (trimEnd cs) = trimEnd cs := by
  fun_induction trimEnd cs with
  | case1 => rfl
  | case2 rest h ih => exact ih
  | case3 rest ih => exact ih
  | case4 cs hslash hdot => rw [trimEnd.eq_3 cs hslash hdot]

@[simp] theorem reversed_ofList_reverse (cs : List Char) :
    reversed (String.ofList cs.reverse) = trimEnd cs := by
  rw [reversed, String.toList_ofList, List.reverse_reverse]

theorem trimmed_ofList_trimEnd (cs : List Char) :
    trimmed (String.ofList (trimEnd cs).reverse) = String.ofList (trimEnd cs).reverse := by
  rw [trimmed, reversed_ofList_reverse, trimEnd_trimEnd]

@[simp] theorem trimmed_trimmed (path : String) : trimmed (trimmed path) = trimmed path :=
  trimmed_ofList_trimEnd path.toList.reverse

/-! ### Joining -/

/-- From its end on, a joined path is the name and then something that counts like the directory. -/
theorem exists_tail {name : String} (hname : IsName name) (directory : String) :
    ∃ tail, reversed (join directory name) = name.toList.reverse ++ tail ∧
      tail.takeWhile inName = [] ∧ trimEnd tail = reversed directory := by
  have hend : ∀ tail, trimEnd (name.toList.reverse ++ tail) = name.toList.reverse ++ tail := by
    refine trimEnd_append (by simpa using hname.slash) (by simpa using hname.empty) ?_
    intro h
    exact hname.here (String.toList_injective (by simpa using h))
  have hhead : name.toList.head? ≠ some '/' := fun h => hname.slash (List.mem_of_mem_head? h)
  unfold join
  split
  next h =>
    obtain rfl : directory = "" := h.resolve_left hhead
    exact ⟨[], by rw [← hend [], List.append_nil, reversed], rfl, rfl⟩
  next h =>
    split
    next hlast =>
      obtain ⟨front, hfront⟩ := List.getLast?_eq_some_iff.1 hlast
      refine ⟨directory.toList.reverse, ?_, ?_, rfl⟩
      · rw [reversed, String.toList_append, List.reverse_append, hend]
      · rw [hfront, List.reverse_append]
        rfl
    next hlast =>
      refine ⟨'/' :: directory.toList.reverse, ?_, rfl, ?_⟩
      · rw [reversed, String.toList_append, String.toList_append, List.reverse_append,
          List.reverse_append, hend]
        rfl
      · have hne : directory.toList.reverse ≠ [] := by simpa using mt Or.inr h
        rw [trimEnd, if_neg (by simpa using hne)]
        rfl

/-- The name of a joined path is the name that has been joined. -/
theorem name?_join {name : String} (hname : IsName name) (directory : String) :
    name? (join directory name) = some name := by
  obtain ⟨tail, hreversed, htail, -⟩ := exists_tail hname directory
  have hchars := hname.inName_of_mem
  have hchoice : ¬(name.toList = [] ∨ name.toList = ['.'] ∨ name.toList = ['.', '.']) := by
    rintro (h | h | h)
    · exact hname.empty (String.toList_injective h)
    · exact hname.here (String.toList_injective h)
    · exact hname.above (String.toList_injective h)
  rw [name?, hreversed, List.takeWhile_append_of_pos hchars, htail, List.append_nil,
    List.reverse_reverse, if_neg hchoice, String.ofList_toList]

/-- The directory of a joined path is the one that it has been joined to. -/
theorem parent?_join {name : String} (hname : IsName name) (directory : String) :
    parent? (join directory name) = some (trimmed directory) := by
  obtain ⟨tail, hreversed, htail, htrim⟩ := exists_tail hname directory
  have hchars := hname.inName_of_mem
  have hdrop : tail.dropWhile inName = tail := by
    have happend := List.takeWhile_append_dropWhile (p := inName) (l := tail)
    rwa [htail, List.nil_append] at happend
  have hchoice : ¬(name.toList.reverse ++ tail = [] ∨ name.toList.reverse ++ tail = ['/']) := by
    have hne : name.toList.reverse ≠ [] := by simpa using hname.empty
    obtain ⟨c, cs, hcs⟩ := List.exists_cons_of_ne_nil hne
    rw [hcs]
    rintro (h | h)
    · cases h
    · have hc := hchars c (hcs ▸ List.mem_cons_self)
      exact inName_eq_true_iff.1 hc (List.cons.inj h).1
  rw [parent?, hreversed, if_neg hchoice, List.dropWhile_append_of_pos hchars, hdrop, htrim,
    trimmed]

/-- A path with a name has a directory, which is spelled without anything that does not count. -/
theorem exists_parent {path name : String} (h : name? path = some name) :
    IsName name ∧ ∃ directory, parent? path = some directory ∧ trimmed directory = directory := by
  unfold name? at h
  obtain ⟨hchoice, h⟩ := Option.ite_none_left_eq_some.1 h
  cases h
  obtain ⟨hnil, hhere, habove⟩ : _ ∧ _ ∧ _ := by simpa only [not_or] using hchoice
  constructor
  · refine ⟨?_, ?_, ?_, ?_⟩
    · rw [String.toList_ofList, List.mem_reverse]
      intro hmem
      exact inName_eq_true_iff.1 (List.mem_takeWhile_imp hmem) rfl
    all_goals
      intro h
      have hlist := congrArg String.toList h
      rw [String.toList_ofList] at hlist
    · exact hnil hlist
    · exact hhere hlist
    · exact habove hlist
  · have hchoice' : ¬(reversed path = [] ∨ reversed path = ['/']) := by
      rintro (h | h)
      all_goals
        rw [h] at hnil
        exact hnil rfl
    refine ⟨_, if_neg hchoice', trimmed_ofList_trimEnd _⟩

/-! ### Extensions -/

/-- A name is split at its last point, if there is one with something in front of it. -/
theorem splitAtPoint_eq_iff {name stem ext : String} :
    splitAtPoint name = (stem, some ext) ↔
      name = stem ++ "." ++ ext ∧ stem ≠ "" ∧ '.' ∉ ext.toList := by
  constructor
  · intro h
    unfold splitAtPoint at h
    simp only at h
    split at h
    next before hdrop =>
      split at h
      next => cases h
      next hbefore =>
        cases h
        have hcut := List.takeWhile_append_dropWhile (p := (· ≠ '.')) (l := name.toList.reverse)
        rw [hdrop, ← List.reverse_inj, List.reverse_reverse] at hcut
        refine ⟨String.toList_injective (hcut.symm.trans ?_), ?_, ?_⟩
        · simp [String.toList_append]
        · intro hempty
          have hlist := congrArg String.toList hempty
          rw [String.toList_ofList] at hlist
          exact hbefore (List.reverse_eq_nil_iff.1 hlist)
        · rw [String.toList_ofList, List.mem_reverse]
          intro hmem
          simpa using List.mem_takeWhile_imp hmem
    next => cases h
  · rintro ⟨rfl, hstem, hext⟩
    have hreverse : (stem ++ "." ++ ext).toList.reverse =
        ext.toList.reverse ++ '.' :: stem.toList.reverse := by
      simp [String.toList_append]
    have hpoints : ∀ c ∈ ext.toList.reverse, decide (c ≠ '.') = true := by
      intro c hc
      rw [decide_eq_true_eq]
      rintro rfl
      exact hext (List.mem_reverse.1 hc)
    have hnil : stem.toList.reverse ≠ [] := by simpa using hstem
    unfold splitAtPoint
    simp only [hreverse]
    rw [List.dropWhile_append_of_pos hpoints, List.takeWhile_append_of_pos hpoints]
    simp [hnil]

/-- A path whose name has an extension has that extension, and the stem in front of it. -/
theorem stem?_of_name {path stem ext : String} (h : name? path = some (stem ++ "." ++ ext))
    (hstem : stem ≠ "") (hext : '.' ∉ ext.toList) :
    stem? path = some stem ∧ extension? path = some ext := by
  have hsplit : splitAtPoint (stem ++ "." ++ ext) = (stem, some ext) :=
    splitAtPoint_eq_iff.2 ⟨rfl, hstem, hext⟩
  rw [stem?, extension?, h, Option.map_some, Option.bind_some, hsplit]
  exact ⟨rfl, rfl⟩

/-- A path with an extension has a name with that extension. -/
theorem exists_name_of_extension? {path ext : String} (h : extension? path = some ext) :
    ∃ stem, name? path = some (stem ++ "." ++ ext) ∧ stem ≠ "" ∧ '.' ∉ ext.toList := by
  obtain ⟨name, hname, hext⟩ := Option.bind_eq_some_iff.1 h
  obtain ⟨hcut, hstem, hpoint⟩ := splitAtPoint_eq_iff.1 (Prod.ext rfl hext)
  exact ⟨_, hname.trans (congrArg some hcut), hstem, hpoint⟩

end Switchboard.Path
