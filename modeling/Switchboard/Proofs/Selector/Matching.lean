import Switchboard.Proofs.Selector.Grammar
import Switchboard.Proofs.Selector.Occurrence

/-!
# Which event names fit a pattern

Every pattern has a matcher, and the matcher accepts just the names that the pattern is meant for:
`Operator.Fits` says in plain words what each operator asks of a name. The word of a word pattern
may stand anywhere in the name, as long as it is set off from what is beside it.

* `Matcher.containsWord_iff`: the search for a word decides whether it occurs between delimiters;
* `Matcher.accepts_iff`: a matcher with a text in the characters of names accepts what fits;
* `matcher_exact`: the same for the matchers of patterns.
-/

namespace Switchboard

/-- Any characters are those of a text. -/
theorem toList_surjective : Function.Surjective String.toList :=
  fun cs => ⟨String.ofList cs, String.toList_ofList⟩

namespace Operator

/-- A word may begin behind this text. -/
def EndsOpen (x : String) : Prop := x = "" ∨ ∃ z : String, ∃ d ∈ ['.', ':', '-'], x = z.push d

/-- A word may end in front of this text. -/
def StartsOpen (y : String) : Prop :=
  y = "" ∨ ∃ d ∈ ['.', ':', '-'], ∃ z, y = String.singleton d ++ z

/-- What an operator with a text asks of a name. -/
def Fits (word name : String) : Operator → Prop
  | exact => name = word
  | beginsWith => ∃ y, name = word ++ y
  | endsWith => ∃ x, name = x ++ word
  | containsString => ∃ x y, name = x ++ word ++ y
  | containsWord => ∃ x y, name = x ++ word ++ y ∧ EndsOpen x ∧ StartsOpen y
  | notEquals => name ≠ word

theorem endsOpen_iff {x : String} :
    EndsOpen x ↔ x.toList = [] ∨ ∃ zs, ∃ d ∈ Matcher.delimiterChars, x.toList = zs ++ [d] := by
  simp only [EndsOpen, ← String.toList_inj, String.toList_push, String.toList_empty]
  rw [toList_surjective.exists]
  rfl

theorem startsOpen_iff {y : String} :
    StartsOpen y ↔ y.toList = [] ∨ ∃ d ∈ Matcher.delimiterChars, ∃ zs, y.toList = d :: zs := by
  simp only [StartsOpen, ← String.toList_inj, String.toList_append, String.toList_singleton,
    String.toList_empty, toList_surjective.exists]
  rfl

end Operator

namespace Matcher

theorem hasInfix_iff {part cs : List Char} : hasInfix part cs = true ↔ part <:+: cs := by
  induction cs with
  | nil => simp [hasInfix]
  | cons c cs ih =>
    rw [hasInfix, Bool.or_eq_true, ih, List.isPrefixOf_iff_prefix, List.infix_cons_iff]

/-- A word is found exactly if it occurs somewhere between delimiters or ends. -/
theorem containsWord_iff {text word : String} (hnonempty : word ≠ "")
    (hword : ∀ c ∈ word.toList, c.utf8Size = 1) :
    containsWord text word = true ↔
      ∃ x y, text = x ++ word ++ y ∧ Operator.EndsOpen x ∧ Operator.StartsOpen y := by
  have hsearch : containsWord text word = true ↔
      ∃ start, standsAt (bytesOf text).toArray (bytesOf word) start = true ∧
        boundedLeft (bytesOf text).toArray start = true ∧
        boundedRight (bytesOf text).toArray (start + (bytesOf word).length) = true := by
    simp [containsWord, List.any_eq_true, mem_occurrences_iff, hnonempty]
  rw [hsearch]
  simp only [standsAt_iff, bytesOf_eq]
  constructor
  · rintro ⟨_, ⟨pre, post, hcut, rfl⟩, hleft, hright⟩
    have hchars : word.toList ≠ [] := mt String.toList_eq_nil_iff.1 hnonempty
    obtain ⟨xs, ys, htext, rfl, rfl⟩ := exists_cut hchars hword hcut
    refine ⟨String.ofList xs, String.ofList ys, String.toList_injective ?_,
      Operator.endsOpen_iff.2 ?_, Operator.startsOpen_iff.2 ?_⟩
    · rw [htext, String.toList_append, String.toList_append, String.toList_ofList,
        String.toList_ofList]
    · rw [hcut, List.append_assoc] at hleft
      rw [String.toList_ofList]
      exact boundedLeft_iff.1 hleft
    · rw [hcut, ← List.length_append] at hright
      rw [String.toList_ofList]
      exact boundedRight_iff.1 hright
  · rintro ⟨x, y, rfl, hx, hy⟩
    have hcut : encoded (x ++ word ++ y).toList =
        encoded x.toList ++ encoded word.toList ++ encoded y.toList := by
      rw [String.toList_append, String.toList_append, encoded_append, encoded_append]
    refine ⟨(encoded x.toList).length, ⟨_, _, hcut, rfl⟩, ?_, ?_⟩
    · rw [hcut, List.append_assoc]
      exact boundedLeft_iff.2 (Operator.endsOpen_iff.1 hx)
    · rw [hcut, ← List.length_append]
      exact boundedRight_iff.2 (Operator.startsOpen_iff.1 hy)

/-- A matcher accepts the names that fit its operator and its text. -/
theorem accepts_iff {m : Matcher} (hm : isName m.text.toList = true) (name : String) :
    m.accepts name = true ↔ m.operator.Fits m.text name := by
  obtain ⟨op, word⟩ := m
  obtain ⟨hnonempty, hchars⟩ := Selector.isName_iff.1 hm
  cases op with
  | exact => simp [accepts, Operator.Fits]
  | beginsWith =>
    simp only [accepts, Operator.Fits, List.isPrefixOf_iff_prefix, ← String.toList_inj,
      String.toList_append]
    rw [List.IsPrefix, toList_surjective.exists]
    simp only [eq_comm]
  | endsWith =>
    simp only [accepts, Operator.Fits, List.isSuffixOf_iff_suffix, ← String.toList_inj,
      String.toList_append]
    rw [List.IsSuffix, toList_surjective.exists]
    simp only [eq_comm]
  | containsString =>
    simp only [accepts, Operator.Fits, hasInfix_iff, ← String.toList_inj, String.toList_append]
    simp only [List.IsInfix, toList_surjective.exists, eq_comm]
  | containsWord =>
    exact containsWord_iff hnonempty fun c hc => (hchars c hc).utf8Size_eq_one
  | notEquals => simp [accepts, Operator.Fits]

end Matcher

/-- A pattern always has a matcher, of its own operator and text. -/
theorem Matcher.ofSelector_of_isPattern {s : Selector} (h : s.isPattern = true) :
    Matcher.ofSelector s = .ok ⟨s.operator, s.name⟩ := by
  simp [Matcher.ofSelector, Matcher.ofSelector?, h]

/-- Every pattern has a matcher, and that accepts an event name, be it any text at all, exactly if
the name fits the operator and the text of the pattern. -/
theorem matcher_exact (s : Selector) (hpattern : s.isPattern = true) :
    ∃ m, Matcher.ofSelector s = .ok m ∧
      ∀ name, m.accepts name = true ↔ s.operator.Fits s.name name :=
  ⟨⟨s.operator, s.name⟩, Matcher.ofSelector_of_isPattern hpattern,
    Matcher.accepts_iff s.isName_name⟩

/-- The pattern of a word of two equal letters. -/
def twinPattern : Selector := ⟨.containsWord, "aa", by decide⟩

/-- The first two occurrences overlap and are not set off; the last one is. -/
theorem matcher_exact_twin :
    twinPattern.isPattern = true ∧
      ∃ m, Matcher.ofSelector twinPattern = .ok m ∧ m.accepts "é-aaa.aa" = true := by
  have hpattern : twinPattern.isPattern = true := rfl
  obtain ⟨m, hm, haccepts⟩ := matcher_exact twinPattern hpattern
  exact ⟨hpattern, m, hm, (haccepts _).2
    ⟨"é-aaa.", "", rfl, Or.inr ⟨"é-aaa", '.', by decide, rfl⟩, Or.inl rfl⟩⟩

end Switchboard
