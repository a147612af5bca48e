import Switchboard.Error

/-!
# The grammar of selectors

A text is a selector if it is one of five tokens or nothing, followed by a name. Reading and writing
are inverse to each other: `Selector.parse_eq_ok_iff` says that a selector is read from its own text
and from no other one, and everything about the grammar follows from that.

* `Selector.IsNameChar`, `Selector.Spelled`: the grammar in its own words;
* `Selector.split_of_cut`, `Selector.split_of_not_cut`: splitting by characters is cutting behind two
  bytes, and no cut where a character stands across;
* `Selector.name_of_eventName`: an event name is read as itself;
* `selector_grammar`: reading, writing and the grammar together.
-/

namespace Switchboard

namespace Operator

/-- A token is one character of one byte and the equals sign. -/
theorem toList_token {op : Operator} (h : op.isPattern = true) :
    ∃ a, op.token.toList = [a, '='] ∧ a.utf8Size = 1 := by
  cases op with
  | exact => cases h
  | beginsWith | endsWith | containsString | containsWord | notEquals => exact ⟨_, rfl, by decide⟩

/-- The five tokens are told apart by their two characters. -/
theorem ofChars?_eq_some_iff {a b : Char} {op : Operator} :
    ofChars? a b = some op ↔ op.isPattern = true ∧ op.token.toList = [a, b] := by
  constructor
  · intro h
    exact ⟨(ofChars?_token h).2, (ofChars?_token h).1⟩
  · rintro ⟨hp, htoken⟩
    cases op with
    | exact => cases hp
    | beginsWith | endsWith | containsString | containsWord | notEquals =>
      cases htoken
      rfl

theorem ofToken?_eq_some_iff {text : String} {op : Operator} :
    ofToken? text = some op ↔ op.isPattern = true ∧ op.token = text := by
  constructor
  · intro h
    refine ⟨?_, by simpa using List.find?_some h⟩
    have hmem := List.mem_of_find?_eq_some h
    cases op with
    | exact => exact absurd hmem (by decide)
    | beginsWith | endsWith | containsString | containsWord | notEquals => rfl
  · rintro ⟨hp, rfl⟩
    cases op with
    | exact => cases hp
    | beginsWith | endsWith | containsString | containsWord | notEquals => decide

end Operator

namespace Selector

/-- The characters of names, in ranges. -/
def IsNameChar (c : Char) : Prop :=
  ('A' ≤ c ∧ c ≤ 'Z') ∨ ('a' ≤ c ∧ c ≤ 'z') ∨ ('0' ≤ c ∧ c ≤ '9') ∨ c ∈ ['.', ':', '_', '-']

theorem isNameChar_iff {c : Char} : isNameChar c = true ↔ IsNameChar c := by
  unfold isNameChar
  delta Char.isAlphanum Char.isAlpha Char.isUpper Char.isLower Char.isDigit
  simp only [IsNameChar, Bool.or_eq_true, Bool.and_eq_true, decide_eq_true_eq, List.mem_cons,
    List.not_mem_nil, or_false, Char.le_def, ge_iff_le, or_assoc]

/-- A name for examples. -/
theorem isName_offer : isName "offer".toList = true := by decide

theorem isName_iff {name : String} :
    isName name.toList = true ↔ name ≠ "" ∧ ∀ c ∈ name.toList, IsNameChar c := by
  simp only [isName, Bool.and_eq_true, Bool.not_eq_true', List.isEmpty_eq_false_iff, List.all_eq_true,
    isNameChar_iff, ne_eq, String.toList_eq_nil_iff]

/-- Every character of a name is a single byte. -/
theorem IsNameChar.utf8Size_eq_one {c : Char} (h : IsNameChar c) : c.utf8Size = 1 := by
  rw [Char.utf8Size_eq_one_iff, UInt32.le_iff_toNat_le]
  simp only [IsNameChar, Char.le_def, UInt32.le_iff_toNat_le, List.mem_cons, List.not_mem_nil,
    or_false] at h
  rcases h with ⟨-, h⟩ | ⟨-, h⟩ | ⟨-, h⟩ | rfl | rfl | rfl | rfl
  · exact Nat.le_trans h (by decide)
  · exact Nat.le_trans h (by decide)
  · exact Nat.le_trans h (by decide)
  all_goals decide

/-! ### Splitting -/

/-- A token and a name are split where they meet. -/
theorem split_token_append (op : Operator) {name : List Char} (h : isName name = true) :
    split (op.token.toList ++ name) = (op, name) := by
  cases op with
  | exact =>
    show split name = _
    unfold split
    split
    next a b rest =>
      split
      next op hop =>
        obtain ⟨hp, htoken⟩ := Operator.ofChars?_eq_some_iff.1 hop
        obtain ⟨a', htoken', -⟩ := Operator.toList_token hp
        rw [htoken] at htoken'
        cases htoken'
        -- the equals sign is no character of a name
        have hequals : isNameChar '=' = false := by decide
        simp [isName, hequals] at h
      next => rfl
    next => rfl
  | beginsWith | endsWith | containsString | containsWord | notEquals => rfl

/-- A selector is read from its own text and from no other one. -/
theorem parse?_eq_some_iff {t : String} {s : Selector} : parse? t = some s ↔ s.text = t := by
  refine ⟨text_of_parse?, ?_⟩
  rintro rfl
  obtain ⟨op, name, hname⟩ := s
  have hsplit : split (text ⟨op, name, hname⟩).toList = (op, name.toList) := by
    rw [text, String.toList_append]
    exact split_token_append op hname
  unfold parse?
  simp only [hsplit, hname, dite_true, String.ofList_toList]

theorem parse_eq_ok_iff {t : String} {s : Selector} : parse t = .ok s ↔ s.text = t := by
  rw [← parse?_eq_some_iff, parse]
  cases parse? t <;> simp

theorem eq_of_parse_eq_error {t : String} {e : EngineError} (h : parse t = .error e) :
    e = .invalidSelector t := by
  unfold parse at h
  split at h
  · cases h
  · cases h
    rfl

/-! ### Splitting by bytes -/

/-- The number of bytes of a text. -/
def byteLength : List Char → Nat
  | [] => 0
  | c :: cs => c.utf8Size + byteLength cs

theorem byteLength_cons (c : Char) (cs : List Char) :
    byteLength (c :: cs) = c.utf8Size + byteLength cs := rfl

theorem byteLength_append (cs ds : List Char) :
    byteLength (cs ++ ds) = byteLength cs + byteLength ds := by
  induction cs with
  | nil => rw [List.nil_append, byteLength, Nat.zero_add]
  | cons c cs ih => rw [List.cons_append, byteLength_cons, byteLength_cons, ih, Nat.add_assoc]

theorem eq_nil_of_byteLength_eq_zero {cs : List Char} (h : byteLength cs = 0) : cs = [] := by
  cases cs with
  | nil => rfl
  | cons c cs =>
    have := c.utf8Size_pos
    rw [byteLength_cons] at h
    omega

theorem utf8Size_of_ofChars? {a b : Char} {op : Operator} (h : Operator.ofChars? a b = some op) :
    a.utf8Size = 1 ∧ b.utf8Size = 1 := by
  obtain ⟨hp, htoken⟩ := Operator.ofChars?_eq_some_iff.1 h
  obtain ⟨a', htoken', ha⟩ := Operator.toList_token hp
  rw [htoken] at htoken'
  cases htoken'
  exact ⟨ha, by decide⟩

/-- If the second byte ends a character, the text is split there, provided that what stands in front
is a token. -/
theorem split_of_cut {front : List Char} (rest : List Char) (h : byteLength front = 2) :
    split (front ++ rest) =
      match Operator.ofToken? (String.ofList front) with
      | some op => (op, rest)
      | none => (.exact, front ++ rest) := by
  cases front with
  | nil => cases h
  | cons a front =>
    cases front with
    | nil =>
      -- a single character of two bytes: neither way of looking finds a token
      have ha : a.utf8Size = 2 := h
      have htoken : Operator.ofToken? (String.ofList [a]) = none := by
        refine Option.eq_none_iff_forall_ne_some.2 fun op hop => ?_
        obtain ⟨hp, htext⟩ := Operator.ofToken?_eq_some_iff.1 hop
        obtain ⟨a', htoken, -⟩ := Operator.toList_token hp
        rw [htext, String.toList_ofList] at htoken
        cases htoken
      rw [htoken]
      cases rest with
      | nil => rfl
      | cons b rest =>
        have hchars : Operator.ofChars? a b = none := by
          refine Option.eq_none_iff_forall_ne_some.2 fun op hop => ?_
          have := (utf8Size_of_ofChars? hop).1
          omega
        simp only [List.cons_append, List.nil_append, split, hchars]
    | cons b front =>
      -- two characters of one byte each, which both ways of looking compare with the tokens
      have ha := a.utf8Size_pos
      have hb := b.utf8Size_pos
      rw [byteLength_cons, byteLength_cons] at h
      obtain rfl : front = [] := eq_nil_of_byteLength_eq_zero (by omega)
      have htoken : Operator.ofToken? (String.ofList [a, b]) = Operator.ofChars? a b := by
        refine Option.ext fun op => ?_
        rw [Operator.ofToken?_eq_some_iff, Operator.ofChars?_eq_some_iff]
        refine and_congr_right fun _ => ?_
        rw [← String.toList_inj, String.toList_ofList]
      rw [htoken]
      rfl

/-- If the text has no second byte or that byte does not end a character, there is no operator. -/
theorem split_of_not_cut {cs : List Char}
    (h : ∀ front rest, cs = front ++ rest → byteLength front ≠ 2) : split cs = (.exact, cs) := by
  unfold split
  split
  next a b rest =>
    split
    next op hop =>
      obtain ⟨ha, hb⟩ := utf8Size_of_ofChars? hop
      refine absurd ?_ (h [a, b] rest rfl)
      simp [byteLength, ha, hb]
    next => rfl
  next => rfl

/-! ### The grammar -/

/-- The text is the token of an operator and a name. -/
structure Spelled (t : String) (op : Operator) (name : String) : Prop where
  text : t = op.token ++ name
  nonempty : name ≠ ""
  chars : ∀ c ∈ name.toList, IsNameChar c

theorem spelled_text (s : Selector) : Spelled s.text s.operator s.name where
  text := rfl
  nonempty := (isName_iff.1 s.isName_name).1
  chars := (isName_iff.1 s.isName_name).2

/-- What is spelled out is read as it is spelled. -/
theorem Spelled.parse_eq {t : String} {op : Operator} {name : String} (h : Spelled t op name) :
    parse t = .ok ⟨op, name, isName_iff.2 ⟨h.nonempty, h.chars⟩⟩ :=
  parse_eq_ok_iff.2 h.text.symm

theorem Spelled.ne_empty {t : String} {op : Operator} {name : String} (h : Spelled t op name) :
    t ≠ "" := by
  rw [h.text]
  intro hempty
  exact h.nonempty (String.append_eq_empty_iff.1 hempty).2

/-- A text is refused if it is not spelled out in any way. -/
theorem parse_eq_error_iff {t : String} {e : EngineError} :
    parse t = .error e ↔ (∀ op name, ¬ Spelled t op name) ∧ e = .invalidSelector t := by
  constructor
  · intro h
    refine ⟨fun op name hspelled => ?_, eq_of_parse_eq_error h⟩
    cases hspelled.parse_eq.symm.trans h
  · rintro ⟨h, rfl⟩
    cases hparse : parse t with
    | error e => rw [eq_of_parse_eq_error hparse]
    | ok s =>
      refine absurd (spelled_text s) ?_
      rw [parse_eq_ok_iff.1 hparse]
      exact h s.operator s.name

/-- Every character of a selector is a single byte. -/
theorem utf8Size_of_parse_eq_ok {t : String} {s : Selector} (h : parse t = .ok s) {c : Char}
    (hc : c ∈ t.toList) : c.utf8Size = 1 := by
  rw [← parse_eq_ok_iff.1 h, text, String.toList_append] at hc
  rcases List.mem_append.1 hc with hc | hc
  · cases hp : s.operator.isPattern with
    | true =>
      obtain ⟨a, htoken, ha⟩ := Operator.toList_token hp
      rw [htoken] at hc
      rcases List.mem_cons.1 hc with rfl | hc
      · exact ha
      · rw [List.mem_singleton.1 hc]
        decide
    | false =>
      have hexact : s.operator = .exact := by simpa [Operator.isPattern] using hp
      rw [hexact] at hc
      cases hc
  · exact ((spelled_text s).chars c hc).utf8Size_eq_one

theorem eventName_eq_ok_iff {t : String} {s : Selector} :
    eventName t = .ok s ↔ parse t = .ok s ∧ s.isPattern = false := by
  have hoption : eventName? t = some s ↔ s.text = t ∧ s.isPattern = false := by
    rw [eventName?, Option.filter_eq_some_iff, parse?_eq_some_iff, Bool.not_eq_true']
  rw [parse_eq_ok_iff, ← hoption, eventName]
  cases eventName? t <;> simp

theorem isEventName_iff {t : String} : isEventName t = true ↔ ∃ s, eventName t = .ok s := by
  rw [isEventName, eventName]
  cases eventName? t <;> simp

/-- A selector without an operator has its text as its name. -/
theorem name_of_exact {t : String} {s : Selector} (h : parse t = .ok s)
    (hexact : s.operator = .exact) : s.name = t := by
  rw [← parse_eq_ok_iff.1 h, text, hexact]
  exact String.empty_append.symm

/-- A text that is no event name is refused with that text. -/
theorem eq_of_eventName_eq_error {text : String} {e : EngineError}
    (h : eventName text = .error e) : e = .invalidEventName text := by
  unfold eventName at h
  cases hname : eventName? text with
  | none =>
    rw [hname] at h
    cases h
    rfl
  | some s =>
    rw [hname] at h
    cases h

/-- An event name is read as itself. -/
theorem name_of_eventName {t : String} {s : Selector} (h : eventName t = .ok s) : s.name = t := by
  obtain ⟨hparse, hpattern⟩ := eventName_eq_ok_iff.1 h
  exact name_of_exact hparse (by simpa [isPattern, Operator.isPattern] using hpattern)

/-- A value is read as a selector if it is a text that is one. -/
theorem decode_eq_ok_iff {v : Value} {s : Selector} :
    decode v = .ok s ↔ ∃ t, v = .string t ∧ parse t = .ok s := by
  cases v with
  | string t =>
    have htext : Shape.text (.string t) = .ok t := rfl
    simp only [decode, htext, bind, Except.bind]
    cases h : parse t <;> simp [h]
  | null | bool | int | double | array | object =>
    constructor
    · intro h
      cases h
    · rintro ⟨t, ht, -⟩
      cases ht

/-- A text that cannot be cut behind its second byte has no operator. -/
theorem operator_of_not_cut {t : String} {s : Selector}
    (hcut : ∀ front rest, t.toList = front ++ rest → byteLength front ≠ 2)
    (h : parse t = .ok s) : s.operator = .exact := by
  have hsplit : split t.toList = (s.operator, s.name.toList) := by
    rw [← parse_eq_ok_iff.1 h, text, String.toList_append]
    exact split_token_append s.operator s.isName_name
  rw [split_of_not_cut hcut] at hsplit
  exact (congrArg Prod.fst hsplit).symm

/-- A text with a character across its second byte is refused. -/
theorem parse_of_straddled {t : String} {front rest : List Char} {c : Char}
    (ht : t.toList = front ++ c :: rest) (hfront : byteLength front < 2)
    (hc : 2 < byteLength front + c.utf8Size) : parse t = .error (.invalidSelector t) := by
  cases h : parse t with
  | error e => rw [eq_of_parse_eq_error h]
  | ok s =>
    have hsize : c.utf8Size = 1 := utf8Size_of_parse_eq_ok h (by simp [ht])
    omega

end Selector

open Selector in
/-- A text is read as a selector if it is one of five tokens or nothing, followed by one or more of
the characters of names, and then in the only possible way. A selector is read back from its text and
from its value, and a value is read as a selector if it is a text that is. A text that is refused
stands in the error. One of less than two bytes can only be a plain name, and one with a character
across its second byte is refused. -/
theorem selector_grammar :
    (∀ t, (∃ s, parse t = .ok s) ↔
        ∃ token ∈ ["", "^=", "$=", "*=", "~=", "!="], ∃ name : String,
          t = token ++ name ∧ name ≠ "" ∧ ∀ c ∈ name.toList, IsNameChar c) ∧
      (∀ t s, parse t = .ok s → Spelled t s.operator s.name ∧ s.text = t ∧
        ∀ op name, Spelled t op name → op = s.operator ∧ name = s.name) ∧
      (∀ s : Selector, parse s.text = .ok s ∧ decode s.encode = .ok s) ∧
      (∀ v s, decode v = .ok s ↔ ∃ t, v = .string t ∧ parse t = .ok s) ∧
      (∀ t e, parse t = .error e → e = .invalidSelector t) ∧
      (∀ t s, byteLength t.toList < 2 → parse t = .ok s → s.operator = .exact ∧ s.name = t) ∧
      (∀ t front c rest, t.toList = front ++ c :: rest → byteLength front < 2 →
        2 < byteLength front + c.utf8Size → parse t = .error (.invalidSelector t)) := by
  refine ⟨fun t => ⟨?_, ?_⟩, fun t s h => ?_, fun s => ?_, fun v s => decode_eq_ok_iff,
    fun t e => eq_of_parse_eq_error, fun t s hshort h => ?_,
    fun t front c rest => parse_of_straddled⟩
  · rintro ⟨s, h⟩
    obtain ⟨htext, hname, hchars⟩ := spelled_text s
    rw [parse_eq_ok_iff.1 h] at htext
    refine ⟨s.operator.token, ?_, s.name, htext, hname, hchars⟩
    cases s.operator <;> decide
  · rintro ⟨token, htoken, name, ht, hname, hchars⟩
    have hop : ∃ op : Operator, op.token = token := by
      simp only [List.mem_cons, List.not_mem_nil, or_false] at htoken
      rcases htoken with rfl | rfl | rfl | rfl | rfl | rfl
      · exact ⟨.exact, rfl⟩
      · exact ⟨.beginsWith, rfl⟩
      · exact ⟨.endsWith, rfl⟩
      · exact ⟨.containsString, rfl⟩
      · exact ⟨.containsWord, rfl⟩
      · exact ⟨.notEquals, rfl⟩
    obtain ⟨op, rfl⟩ := hop
    exact ⟨_, Spelled.parse_eq ⟨ht, hname, hchars⟩⟩
  · have htext := parse_eq_ok_iff.1 h
    refine ⟨htext ▸ spelled_text s, htext, fun op name hspelled => ?_⟩
    rw [hspelled.parse_eq] at h
    cases h
    exact ⟨rfl, rfl⟩
  · have hparse : parse s.text = .ok s := parse_eq_ok_iff.2 rfl
    exact ⟨hparse, decode_eq_ok_iff.2 ⟨s.text, rfl, hparse⟩⟩
  · have hexact : s.operator = .exact := by
      refine operator_of_not_cut (fun front rest ht => ?_) h
      rw [ht, byteLength_append] at hshort
      omega
    exact ⟨hexact, name_of_exact h hexact⟩

end Switchboard
