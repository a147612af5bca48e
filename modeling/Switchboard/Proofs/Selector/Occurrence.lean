import Mathlib.Data.List.Infix
import Switchboard.Selector.Matcher

/-!
# Where a word occurs

A word is searched in the bytes of a text. Its characters are of one byte each, and no byte of a
longer character is one of those; so where the bytes of the word stand in the bytes of the text, the
word itself stands in the text.

* `Matcher.exists_cut`: an occurrence in the bytes is one in the characters;
* `Matcher.standsAt_iff`, `Matcher.mem_occurrences_iff`: the search misses no occurrence;
* `Matcher.boundedLeft_iff`, `Matcher.boundedRight_iff`: what stands at either side.
-/

namespace Switchboard.Matcher

/-! ### Bytes of characters -/

/-- The bytes of characters. -/
def encoded (cs : List Char) : List UInt8 := cs.flatMap String.utf8EncodeChar

theorem bytesOf_eq (s : String) : bytesOf s = encoded s.toList := rfl

@[simp] theorem encoded_nil : encoded [] = [] := rfl

theorem encoded_cons (c : Char) (cs : List Char) :
    encoded (c :: cs) = String.utf8EncodeChar c ++ encoded cs := List.flatMap_cons

theorem encoded_append (cs ds : List Char) : encoded (cs ++ ds) = encoded cs ++ encoded ds :=
  List.flatMap_append

theorem encoded_eq_nil_iff {cs : List Char} : encoded cs = [] ↔ cs = [] := by
  cases cs with
  | nil => simp
  | cons c cs => simp [encoded_cons, String.utf8EncodeChar_ne_nil]

/-- The byte of a character that has only one. -/
theorem utf8EncodeChar_of_narrow {c : Char} (hc : c.utf8Size = 1) :
    ∃ b : UInt8, String.utf8EncodeChar c = [b] ∧ b.toNat = c.toNat ∧ b.toNat < 128 := by
  have h : c.val.toNat ≤ 127 := UInt32.le_iff_toNat_le.1 (Char.utf8Size_eq_one_iff.1 hc)
  refine ⟨c.val.toUInt8, String.utf8EncodeChar_eq_singleton hc, ?_, ?_⟩
  · rw [UInt32.toNat_toUInt8]
    show c.val.toNat % 256 = c.val.toNat
    omega
  · rw [UInt32.toNat_toUInt8]
    omega

/-- No byte of a longer character is the byte of a character that has only one. -/
theorem le_of_mem_utf8EncodeChar {c : Char} (hc : c.utf8Size ≠ 1) {b : UInt8}
    (hb : b ∈ String.utf8EncodeChar c) : 128 ≤ b.toNat := by
  have h : ¬ c.val.toNat ≤ 127 := by
    intro h
    exact hc (Char.utf8Size_eq_one_iff.2 (UInt32.le_iff_toNat_le.2 h))
  unfold String.utf8EncodeChar at hb
  simp only [if_neg h] at hb
  split at hb
  · simp only [List.mem_cons, List.not_mem_nil, or_false] at hb
    rcases hb with rfl | rfl <;> simp only [UInt8.toNat_ofNat'] <;> omega
  · split at hb
    · simp only [List.mem_cons, List.not_mem_nil, or_false] at hb
      rcases hb with rfl | rfl | rfl <;> simp only [UInt8.toNat_ofNat'] <;> omega
    · simp only [List.mem_cons, List.not_mem_nil, or_false] at hb
      rcases hb with rfl | rfl | rfl | rfl <;> simp only [UInt8.toNat_ofNat'] <;> omega

/-- A byte below 128 is the one byte of the character that it belongs to. -/
theorem eq_of_mem_utf8EncodeChar {c d : Char} (hc : c.utf8Size = 1) {b : UInt8}
    (hb : String.utf8EncodeChar c = [b]) (hd : b ∈ String.utf8EncodeChar d) : d = c := by
  obtain ⟨b', hb', hc', hlt⟩ := utf8EncodeChar_of_narrow hc
  cases hb.symm.trans hb'
  by_cases hsize : d.utf8Size = 1
  · obtain ⟨k, hk, hd', -⟩ := utf8EncodeChar_of_narrow hsize
    rw [hk, List.mem_singleton] at hd
    rw [← hd, hc'] at hd'
    exact Char.toNat_inj.1 hd'.symm
  · have := le_of_mem_utf8EncodeChar hsize hd
    omega

/-- If the bytes of characters start with those of a word, the word stands in front. -/
theorem exists_front {word : List Char} (hword : ∀ c ∈ word, c.utf8Size = 1) {cs : List Char}
    {post : List UInt8} (h : encoded cs = encoded word ++ post) :
    ∃ ys, cs = word ++ ys ∧ encoded ys = post := by
  induction word generalizing cs with
  | nil => exact ⟨cs, rfl, h⟩
  | cons c word ih =>
    obtain ⟨hc, hrest⟩ := List.forall_mem_cons.1 hword
    obtain ⟨b, hb, -, -⟩ := utf8EncodeChar_of_narrow hc
    rw [encoded_cons, hb] at h
    cases cs with
    | nil => cases h
    | cons d cs =>
      -- the first byte belongs to the first character, which is therefore the one of the word
      have hfirst : b ∈ String.utf8EncodeChar d := by
        rw [encoded_cons] at h
        cases hd : String.utf8EncodeChar d with
        | nil => exact absurd hd String.utf8EncodeChar_ne_nil
        | cons k ks =>
          rw [hd] at h
          rw [(List.cons.inj h).1]
          exact List.mem_cons_self
      obtain rfl := eq_of_mem_utf8EncodeChar hc hb hfirst
      rw [encoded_cons, hb] at h
      obtain ⟨ys, rfl, hys⟩ := ih hrest (List.cons.inj h).2
      exact ⟨ys, rfl, hys⟩

/-- Where the bytes of a word stand in those of characters, the word stands in the characters. -/
theorem exists_cut {word : List Char} (hnonempty : word ≠ [])
    (hword : ∀ c ∈ word, c.utf8Size = 1) {cs : List Char} {pre post : List UInt8}
    (h : encoded cs = pre ++ encoded word ++ post) :
    ∃ xs ys, cs = xs ++ word ++ ys ∧ encoded xs = pre ∧ encoded ys = post := by
  induction cs generalizing pre with
  | nil =>
    have hnil : encoded word = [] := by
      have hall := List.append_eq_nil_iff.1 h.symm
      exact (List.append_eq_nil_iff.1 hall.1).2
    exact absurd (encoded_eq_nil_iff.1 hnil) hnonempty
  | cons d cs ih =>
    cases pre with
    | nil =>
      obtain ⟨ys, hys, hpost⟩ := exists_front hword h
      exact ⟨[], ys, hys, rfl, hpost⟩
    | cons k ks =>
      rw [encoded_cons, List.append_assoc] at h
      rcases List.append_eq_append_iff.1 h with ⟨rest, hpre, hrest⟩ | ⟨inner, hd, hinner⟩
      · -- the first character lies in front of the word
        rw [← List.append_assoc] at hrest
        obtain ⟨xs, ys, rfl, hxs, hys⟩ := ih hrest
        exact ⟨d :: xs, ys, rfl, by rw [encoded_cons, hxs, hpre], hys⟩
      · cases inner with
        | nil =>
          obtain ⟨xs, ys, rfl, hxs, hys⟩ := @ih [] hinner.symm
          refine ⟨d :: xs, ys, rfl, ?_, hys⟩
          rw [encoded_cons, hxs, hd, List.append_nil, List.append_nil]
        | cons b inner =>
          -- the word would start inside of a character
          obtain ⟨c, word, rfl⟩ := List.exists_cons_of_ne_nil hnonempty
          have hc := hword c List.mem_cons_self
          obtain ⟨b', hb', -, -⟩ := utf8EncodeChar_of_narrow hc
          rw [encoded_cons, hb'] at hinner
          obtain rfl : b' = b := (List.cons.inj hinner).1
          have hmem : b' ∈ String.utf8EncodeChar d := by
            rw [hd]
            exact List.mem_append_right _ List.mem_cons_self
          rw [eq_of_mem_utf8EncodeChar hc hb' hmem, hb'] at hd
          simp at hd

/-! ### The search -/

/-- A word stands at an offset if the bytes can be cut in front of it and behind it. -/
theorem standsAt_iff {bytes word : List UInt8} {start : Nat} :
    standsAt bytes.toArray word start = true ↔
      ∃ pre post, bytes = pre ++ word ++ post ∧ pre.length = start := by
  induction word generalizing start with
  | nil =>
    simp only [standsAt, decide_eq_true_eq, List.size_toArray, List.append_nil]
    constructor
    · intro h
      exact ⟨bytes.take start, bytes.drop start, (List.take_append_drop start bytes).symm,
        List.length_take_of_le h⟩
    · rintro ⟨pre, post, rfl, rfl⟩
      simp
  | cons b word ih =>
    simp only [standsAt, Bool.and_eq_true, beq_iff_eq, List.getElem?_toArray, ih]
    constructor
    · rintro ⟨hb, pre, post, hbytes, hlength⟩
      obtain ⟨front, k, rfl⟩ : ∃ front k, pre = front ++ [k] := by
        refine ⟨pre.dropLast, pre.getLast (List.ne_nil_of_length_eq_add_one hlength), ?_⟩
        exact (List.dropLast_append_getLast _).symm
      obtain rfl : front.length = start := by simpa using hlength
      rw [hbytes] at hb
      obtain rfl : k = b := by simpa using hb
      exact ⟨front, post, by rw [hbytes]; simp, rfl⟩
    · rintro ⟨pre, post, rfl, rfl⟩
      exact ⟨by simp, pre ++ [b], post, by simp, by simp⟩

theorem le_of_standsAt {word : List UInt8} {bytes : Array UInt8} {start : Nat}
    (h : standsAt bytes word start = true) : start + word.length ≤ bytes.size := by
  induction word generalizing start with
  | nil => simpa [standsAt] using h
  | cons b word ih =>
    simp only [standsAt, Bool.and_eq_true] at h
    have := ih h.2
    rw [List.length_cons]
    omega

/-- The search stops at the first offset at which the word stands. -/
theorem findFrom?_eq_some_iff {word : List UInt8} {bytes : Array UInt8} {start n : Nat} :
    findFrom? word bytes start = some n ↔
      start ≤ n ∧ standsAt bytes word n = true ∧
        ∀ m, start ≤ m → standsAt bytes word m = true → n ≤ m := by
  fun_induction findFrom? word bytes start with
  | case1 start hle hstands =>
    constructor
    · rintro ⟨⟩
      exact ⟨le_rfl, hstands, fun m hm _ => hm⟩
    · rintro ⟨hn, -, hleast⟩
      exact congrArg some (Nat.le_antisymm hn (hleast start le_rfl hstands))
  | case2 start hle hnot ih =>
    rw [ih]
    -- the word does not stand at the offset itself, so one may as well begin behind it
    have hbehind : ∀ m, standsAt bytes word m = true → (start + 1 ≤ m ↔ start ≤ m) := by
      intro m hm
      have hne : m ≠ start := by
        rintro rfl
        exact hnot hm
      omega
    constructor
    · rintro ⟨hn, hstands, hleast⟩
      exact ⟨by omega, hstands, fun m hm hm' => hleast m ((hbehind m hm').2 hm) hm'⟩
    · rintro ⟨hn, hstands, hleast⟩
      exact ⟨(hbehind n hstands).2 hn, hstands, fun m hm hm' => hleast m (by omega) hm'⟩
  | case3 start hgt =>
    simp only [reduceCtorEq, false_iff, not_and]
    intro hn hstands
    have := le_of_standsAt hstands
    omega

theorem findFrom?_eq_none_iff {word : List UInt8} {bytes : Array UInt8} {start : Nat} :
    findFrom? word bytes start = none ↔ ∀ n, start ≤ n → ¬ standsAt bytes word n = true := by
  fun_induction findFrom? word bytes start with
  | case1 start hle hstands =>
    simp only [reduceCtorEq, false_iff]
    exact fun h => h start le_rfl hstands
  | case2 start hle hnot ih =>
    rw [ih]
    constructor
    · intro h n hn hstands
      rcases Nat.eq_or_lt_of_le hn with rfl | hlt
      · exact hnot hstands
      · exact h n hlt hstands
    · exact fun h n hn => h n (by omega)
  | case3 start hgt =>
    simp only [true_iff]
    intro n hn hstands
    have := le_of_standsAt hstands
    omega

/-- The search goes through all offsets at which the word stands, overlapping ones as well. -/
theorem mem_occurrences_iff {word : List UInt8} {bytes : Array UInt8} {start n : Nat} :
    n ∈ occurrences word bytes start ↔ start ≤ n ∧ standsAt bytes word n = true := by
  fun_induction occurrences word bytes start with
  | case1 start hnone =>
    simp only [List.not_mem_nil, false_iff, not_and]
    exact fun hn => findFrom?_eq_none_iff.1 hnone n hn
  | case2 start first hfirst ih =>
    obtain ⟨hle, hstands, hleast⟩ := findFrom?_eq_some_iff.1 hfirst
    rw [List.mem_cons, ih]
    constructor
    · rintro (rfl | ⟨hn, hn'⟩)
      · exact ⟨hle, hstands⟩
      · exact ⟨by omega, hn'⟩
    · rintro ⟨hn, hn'⟩
      -- nothing between the start and the first occurrence is passed over
      rcases Nat.eq_or_lt_of_le (hleast n hn hn') with rfl | hlt
      · exact Or.inl rfl
      · exact Or.inr ⟨hlt, hn'⟩

/-! ### What stands beside an occurrence -/

/-- The characters that separate words. -/
def delimiterChars : List Char := ['.', ':', '-']

theorem narrow_of_mem_delimiterChars {d : Char} (h : d ∈ delimiterChars) : d.utf8Size = 1 := by
  simp only [delimiterChars, List.mem_cons, List.not_mem_nil, or_false] at h
  rcases h with rfl | rfl | rfl <;> rfl

/-- A byte separates words if it is that of a character that does. -/
theorem mem_delimiters_iff {c : Char} {b : UInt8} (hb : b ∈ String.utf8EncodeChar c) :
    b ∈ delimiters ↔ c ∈ delimiterChars := by
  have hencoded : delimiterChars.map String.utf8EncodeChar = delimiters.map fun k => [k] := by
    decide
  constructor
  · intro h
    have hmem : [b] ∈ delimiterChars.map String.utf8EncodeChar := by
      rw [hencoded]
      exact List.mem_map.2 ⟨b, h, rfl⟩
    obtain ⟨d, hd, henc⟩ := List.mem_map.1 hmem
    rwa [eq_of_mem_utf8EncodeChar (narrow_of_mem_delimiterChars hd) henc hb]
  · intro h
    have hmem : String.utf8EncodeChar c ∈ delimiters.map fun k => [k] :=
      hencoded ▸ List.mem_map_of_mem h
    obtain ⟨k, hk, henc⟩ := List.mem_map.1 hmem
    rw [← henc, List.mem_singleton] at hb
    rwa [hb]

/-- Nothing or a delimiter stands in front of an offset. -/
theorem boundedLeft_iff {xs : List Char} {post : List UInt8} :
    boundedLeft (encoded xs ++ post).toArray (encoded xs).length = true ↔
      xs = [] ∨ ∃ zs, ∃ d ∈ delimiterChars, xs = zs ++ [d] := by
  rcases List.eq_nil_or_concat xs with rfl | ⟨zs, c, rfl⟩
  · simp [boundedLeft]
  · -- the byte in front of the offset is the last one of the last character
    obtain ⟨front, b, hb⟩ : ∃ front b, String.utf8EncodeChar c = front ++ [b] :=
      ⟨_, _, (List.dropLast_append_getLast String.utf8EncodeChar_ne_nil).symm⟩
    have hlast : encoded (zs ++ [c]) = encoded zs ++ front ++ [b] := by
      rw [encoded_append, encoded_cons, encoded_nil, List.append_nil, hb, List.append_assoc]
    have hmem : b ∈ String.utf8EncodeChar c := by simp [hb]
    rw [List.concat_eq_append, hlast]
    simp [boundedLeft, mem_delimiters_iff hmem]

/-- Nothing or a delimiter stands at an offset. -/
theorem boundedRight_iff {pre : List UInt8} {ys : List Char} :
    boundedRight (pre ++ encoded ys).toArray pre.length = true ↔
      ys = [] ∨ ∃ d ∈ delimiterChars, ∃ zs, ys = d :: zs := by
  cases ys with
  | nil => simp [boundedRight]
  | cons c zs =>
    obtain ⟨b, back, hb⟩ := List.exists_cons_of_ne_nil (String.utf8EncodeChar_ne_nil (c := c))
    have hmem : b ∈ String.utf8EncodeChar c := by simp [hb]
    rw [encoded_cons, hb]
    simp [boundedRight, mem_delimiters_iff hmem]

end Switchboard.Matcher
