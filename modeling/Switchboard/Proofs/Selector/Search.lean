import Switchboard.Proofs.Selector.Grammar
import Switchboard.Proofs.Selector.Occurrence
import Switchboard.Text.Bytes

/-!
# The search for a word cannot go wrong

The search for a word goes from turn to turn. A turn cuts the text at an offset, looks for the word
behind it and reads the bytes beside the word that it finds; the next turn begins one byte behind
that place. Here each of these steps may fail: no text is cut inside a character or behind its end,
and no byte is read that the text does not have. For the names of selectors no turn ever fails.

* `Matcher.turn`, `Matcher.search`, `Matcher.TurnsFrom`: the search with steps that may fail;
* `Matcher.findFrom?_eq`: looking for a word in characters and in bytes;
* `Matcher.turn_cases`: all that a turn at the end of a character can do;
* `Matcher.search_eq`: the search comes to what `Matcher.containsWord` says;
* `search_faultless`: all turns of a search.
-/

namespace Switchboard.Matcher

/-! ### Turns -/

/-- What goes wrong at an offset: the text is cut where no character begins or ends, or a byte is
read that the text does not have. -/
inductive Fault where
  | cut (offset : ℕ)
  | read (offset : ℕ)
deriving DecidableEq, Repr

/-- What a turn comes to: the search is over, or it goes on from another offset. -/
inductive Turn where
  | over (found : Bool)
  | on (start : ℕ)
deriving DecidableEq, Repr

/-- The characters behind an offset, at which the text is cut. -/
def behind (text : String) (start : ℕ) : Except Fault (List Char) :=
  match Text.dropBytes start text.toList with
  | some cs => .ok cs
  | none => .error (.cut start)

/-- The number of bytes in front of the first occurrence of a word. -/
def firstOffset? (word : List Char) : List Char → Option ℕ
  | [] => if word.isEmpty then some 0 else none
  | c :: cs =>
    if word.isPrefixOf (c :: cs) then some 0 else (firstOffset? word cs).map (c.utf8Size + ·)

/-- Whether the byte at an offset separates words. -/
def separatesAt (text : String) (offset : ℕ) : Except Fault Bool :=
  match (bytesOf text)[offset]? with
  | some b => .ok (delimiters.contains b)
  | none => .error (.read offset)

/-- Whether nothing or a delimiter stands before an offset. -/
def openLeft (text : String) (begin : ℕ) : Except Fault Bool :=
  if begin = 0 then .ok true else separatesAt text (begin - 1)

/-- Whether nothing or a delimiter stands at an offset. -/
def openRight (text : String) (stop : ℕ) : Except Fault Bool :=
  if stop = text.utf8ByteSize then .ok true else separatesAt text stop

/-- What a turn comes to that has found the word at an offset. -/
def lookBeside (text word : String) (begin : ℕ) : Except Fault Turn := do
  let left ← openLeft text begin
  let right ← openRight text (begin + word.utf8ByteSize)
  return if left && right then .over true else .on (begin + 1)

/-- One turn of the search for a word. -/
def turn (text word : String) (start : ℕ) : Except Fault Turn := do
  let cs ← behind text start
  match firstOffset? word.toList cs with
  | none => return .over false
  | some offset => lookBeside text word (start + offset)

/-- The offsets from which the search makes its turns. -/
inductive TurnsFrom (text word : String) : ℕ → Prop
  | first : TurnsFrom text word 0
  | on {start next : ℕ} (h : TurnsFrom text word start)
    (hturn : turn text word start = .ok (.on next)) : TurnsFrom text word next

/-- The search in at most so many turns. Without a result it would go on. -/
def search (text word : String) : ℕ → ℕ → Except Fault (Option Bool)
  | 0, _ => .ok none
  | turns + 1, start => do
    match ← turn text word start with
    | .over found => return some found
    | .on next => search text word turns next

/-! ### Offsets -/

theorem length_encoded_cons (c : Char) (cs : List Char) :
    (encoded (c :: cs)).length = c.utf8Size + (encoded cs).length := by
  rw [encoded_cons, List.length_append, String.length_utf8EncodeChar]

theorem length_bytesOf (s : String) : (bytesOf s).length = s.utf8ByteSize :=
  List.size_toByteArray.symm.trans (congrArg ByteArray.size String.utf8Encode_toList)

/-- The text can be cut behind some of its characters. -/
theorem dropBytes_append (xs ys : List Char) :
    Text.dropBytes (encoded xs).length (xs ++ ys) = some ys := by
  induction xs with
  | nil => cases ys <;> rfl
  | cons c xs ih =>
    have hpos := c.utf8Size_pos
    rw [length_encoded_cons, List.cons_append]
    cases hcount : c.utf8Size + (encoded xs).length with
    | zero => omega
    | succ count =>
      rw [Text.dropBytes, if_pos (by omega), ← hcount, Nat.add_sub_cancel_left]
      · exact ih
      · exact Nat.succ_ne_zero count

/-- An offset lies between characters if so many bytes are those of the characters in front. -/
theorem isValid_iff {text : String} {start : ℕ} :
    (String.Pos.Raw.mk start).IsValid text ↔
      ∃ xs ys, text.toList = xs ++ ys ∧ (encoded xs).length = start := by
  rw [String.Pos.Raw.isValid_iff_exists_append]
  constructor
  · rintro ⟨x, y, rfl, hx⟩
    refine ⟨x.toList, y.toList, String.toList_append, ?_⟩
    exact (length_bytesOf x).trans (congrArg String.Pos.Raw.byteIdx hx).symm
  · rintro ⟨xs, ys, htext, rfl⟩
    refine ⟨String.ofList xs, String.ofList ys, String.toList_injective ?_, ?_⟩
    · rw [htext, String.toList_append, String.toList_ofList, String.toList_ofList]
    · have hlength := length_bytesOf (String.ofList xs)
      rw [bytesOf_eq, String.toList_ofList] at hlength
      exact congrArg String.Pos.Raw.mk hlength

/-- Of two ways to cut characters, the one with more bytes in front has more characters in front. -/
theorem exists_between {xs ys us vs : List Char} (h : xs ++ ys = us ++ vs)
    (hle : (encoded xs).length ≤ (encoded us).length) : ∃ ws, us = xs ++ ws ∧ ys = ws ++ vs := by
  rcases List.append_eq_append_iff.1 h with ⟨ws, hus, hys⟩ | ⟨ws, hxs, hvs⟩
  · exact ⟨ws, hus, hys⟩
  · have hnil : ws = [] := by
      rw [hxs, encoded_append, List.length_append] at hle
      exact encoded_eq_nil_iff.1 (List.length_eq_zero_iff.1 (by omega))
    rw [hnil, List.append_nil] at hxs
    rw [hnil, List.nil_append] at hvs
    exact ⟨[], by rw [hxs, List.append_nil], hvs.symm⟩

/-! ### Looking for a word -/

section FirstOffset

variable {word cs : List Char}

/-- The first occurrence has the fewest bytes in front of it. -/
theorem cut_of_firstOffset? {k : ℕ} (h : firstOffset? word cs = some k) :
    (∃ us vs, cs = us ++ word ++ vs ∧ (encoded us).length = k) ∧
      ∀ us vs, cs = us ++ word ++ vs → k ≤ (encoded us).length := by
  induction cs generalizing k with
  | nil =>
    rw [firstOffset?] at h
    obtain ⟨hword, h⟩ := Option.ite_none_right_eq_some.1 h
    cases h
    exact ⟨⟨[], [], by simp [List.isEmpty_iff.1 hword], rfl⟩, fun _ _ _ => Nat.zero_le _⟩
  | cons c cs ih =>
    rw [firstOffset?] at h
    split at h
    next hfront =>
      cases h
      obtain ⟨vs, hvs⟩ := List.isPrefixOf_iff_prefix.1 hfront
      exact ⟨⟨[], vs, hvs.symm, rfl⟩, fun _ _ _ => Nat.zero_le _⟩
    next hfront =>
      obtain ⟨k, hk, rfl⟩ := Option.map_eq_some_iff.1 h
      obtain ⟨⟨us, vs, hcs, hus⟩, hleast⟩ := ih hk
      refine ⟨⟨c :: us, vs, congrArg (c :: ·) hcs, by rw [length_encoded_cons, hus]⟩, ?_⟩
      intro us' vs' hcut
      cases us' with
      | nil => exact absurd (List.isPrefixOf_iff_prefix.2 ⟨vs', hcut.symm⟩) hfront
      | cons d us' =>
        obtain ⟨rfl, hcut'⟩ := List.cons.inj hcut
        rw [length_encoded_cons]
        exact Nat.add_le_add_left (hleast us' vs' hcut') _

/-- If nothing is found, the word does not occur. -/
theorem not_cut_of_firstOffset? (h : firstOffset? word cs = none) (us vs : List Char) :
    cs ≠ us ++ word ++ vs := by
  induction cs generalizing us with
  | nil =>
    intro hcut
    obtain ⟨hword, -⟩ := List.append_eq_nil_iff.1 hcut.symm
    rw [firstOffset?, (List.append_eq_nil_iff.1 hword).2] at h
    cases h
  | cons c cs ih =>
    intro hcut
    rw [firstOffset?] at h
    split at h
    · cases h
    next hfront =>
      cases us with
      | nil => exact hfront (List.isPrefixOf_iff_prefix.2 ⟨vs, hcut.symm⟩)
      | cons d us => exact ih (Option.map_eq_none_iff.1 h) us (List.cons.inj hcut).2

end FirstOffset

/-- Looking for a word in the characters behind an offset finds what looking for it in the bytes from
that offset on finds. -/
theorem findFrom?_eq {word : List Char} (hnonempty : word ≠ [])
    (hword : ∀ c ∈ word, c.utf8Size = 1) (xs ys : List Char) :
    findFrom? (encoded word) (encoded (xs ++ ys)).toArray (encoded xs).length =
      (firstOffset? word ys).map ((encoded xs).length + ·) := by
  -- where the bytes of the word stand behind the offset, its characters stand
  have hcut : ∀ n, (encoded xs).length ≤ n →
      standsAt (encoded (xs ++ ys)).toArray (encoded word) n = true →
      ∃ us vs, ys = us ++ word ++ vs ∧ n = (encoded xs).length + (encoded us).length := by
    intro n hn hstands
    obtain ⟨pre, post, hbytes, rfl⟩ := standsAt_iff.1 hstands
    obtain ⟨us, vs, hchars, rfl, -⟩ := exists_cut hnonempty hword hbytes
    rw [List.append_assoc] at hchars
    obtain ⟨ws, rfl, hys⟩ := exists_between hchars hn
    exact ⟨ws, vs, by rw [hys, List.append_assoc], by rw [encoded_append, List.length_append]⟩
  cases hfirst : firstOffset? word ys with
  | none =>
    refine findFrom?_eq_none_iff.2 fun n hn hstands => ?_
    obtain ⟨us, vs, hys, -⟩ := hcut n hn hstands
    exact not_cut_of_firstOffset? hfirst us vs hys
  | some k =>
    obtain ⟨⟨us, vs, hys, hus⟩, hleast⟩ := cut_of_firstOffset? hfirst
    refine findFrom?_eq_some_iff.2 ⟨Nat.le_add_right _ _, standsAt_iff.2 ?_, fun n hn hstands => ?_⟩
    · refine ⟨encoded (xs ++ us), encoded vs, ?_, ?_⟩
      · rw [hys, ← encoded_append, ← encoded_append]
        simp only [List.append_assoc]
      · rw [encoded_append, List.length_append, hus]
    · obtain ⟨us', vs', hys', rfl⟩ := hcut n hn hstands
      exact Nat.add_le_add_left (hleast us' vs' hys') _

/-! ### One turn -/

section Turn

variable {text word : String} {start : ℕ}

theorem separatesAt_eq {offset : ℕ} (h : offset < text.utf8ByteSize) :
    separatesAt text offset = .ok ((bytesOf text)[offset]?.any delimiters.contains) := by
  rw [← length_bytesOf] at h
  rw [separatesAt, List.getElem?_eq_getElem h]
  rfl

theorem openLeft_eq {begin : ℕ} (h : begin ≤ text.utf8ByteSize) :
    openLeft text begin = .ok (boundedLeft (bytesOf text).toArray begin) := by
  unfold openLeft
  split
  next hbegin => simp [hbegin, boundedLeft]
  next hbegin =>
    rw [separatesAt_eq (by omega)]
    simp [hbegin, boundedLeft]

theorem openRight_eq {stop : ℕ} (h : stop ≤ text.utf8ByteSize) :
    openRight text stop = .ok (boundedRight (bytesOf text).toArray stop) := by
  unfold openRight
  split
  next hstop => simp [hstop, boundedRight, length_bytesOf]
  next hstop =>
    rw [separatesAt_eq (by omega)]
    simp [hstop, boundedRight, length_bytesOf]

/-- Whether an occurrence stands between delimiters or ends. -/
def setOff (text word : String) (begin : ℕ) : Bool :=
  boundedLeft (bytesOf text).toArray begin &&
    boundedRight (bytesOf text).toArray (begin + (bytesOf word).length)

theorem lookBeside_eq {begin : ℕ} (h : begin + word.utf8ByteSize ≤ text.utf8ByteSize) :
    lookBeside text word begin =
      .ok (if setOff text word begin then .over true else .on (begin + 1)) := by
  rw [lookBeside, openLeft_eq (by omega), openRight_eq h, setOff, length_bytesOf]
  rfl

/-- All that a turn from between two characters can do: nothing is found, or the word is found inside
of the text, whose next character ends one byte behind. -/
theorem turn_cases (hnonempty : word ≠ "") (hword : ∀ c ∈ word.toList, c.utf8Size = 1)
    (hstart : (String.Pos.Raw.mk start).IsValid text) :
    ∃ cs, behind text start = .ok cs ∧
      (firstOffset? word.toList cs = none ∧
          findFrom? (bytesOf word) (bytesOf text).toArray start = none ∧
          turn text word start = .ok (.over false) ∨
        ∃ offset, firstOffset? word.toList cs = some offset ∧
          findFrom? (bytesOf word) (bytesOf text).toArray start = some (start + offset) ∧
          start + offset + word.utf8ByteSize ≤ text.utf8ByteSize ∧
          (String.Pos.Raw.mk (start + offset + 1)).IsValid text ∧
          turn text word start =
            .ok (if setOff text word (start + offset) then .over true
              else .on (start + offset + 1))) := by
  obtain ⟨xs, ys, htext, rfl⟩ := isValid_iff.1 hstart
  have hnil : word.toList ≠ [] := mt String.toList_eq_nil_iff.1 hnonempty
  have hbehind : behind text (encoded xs).length = .ok ys := by
    rw [behind, htext, dropBytes_append]
  have hfind := findFrom?_eq hnil hword xs ys
  rw [← htext] at hfind
  refine ⟨ys, hbehind, ?_⟩
  cases hfirst : firstOffset? word.toList ys with
  | none =>
    rw [hfirst] at hfind
    refine Or.inl ⟨rfl, hfind, ?_⟩
    simp only [turn, hbehind, hfirst, bind, Except.bind, pure, Except.pure]
  | some k =>
    rw [hfirst] at hfind
    have hinside : (encoded xs).length + k + word.utf8ByteSize ≤ text.utf8ByteSize := by
      have hle := le_of_standsAt (findFrom?_eq_some_iff.1 hfind).2.1
      rwa [List.size_toArray, ← bytesOf_eq, ← bytesOf_eq, length_bytesOf, length_bytesOf] at hle
    refine Or.inr ⟨k, rfl, hfind, hinside, isValid_iff.2 ?_, ?_⟩
    · -- the first character of the word is a single byte
      obtain ⟨⟨us, vs, hys, hus⟩, -⟩ := cut_of_firstOffset? hfirst
      obtain ⟨c, rest, hrest⟩ := List.exists_cons_of_ne_nil hnil
      have hc : c.utf8Size = 1 := hword c (hrest ▸ List.mem_cons_self)
      refine ⟨xs ++ us ++ [c], rest ++ vs, ?_, ?_⟩
      · rw [htext, hys, hrest]
        simp only [List.append_assoc, List.cons_append, List.nil_append]
      · rw [encoded_append, encoded_append, List.length_append, List.length_append,
          length_encoded_cons, hc, hus]
        rfl
    · simp only [turn, hbehind, hfirst, bind, Except.bind]
      exact lookBeside_eq hinside

/-- The search begins between two characters with each of its turns. -/
theorem TurnsFrom.isValid (hnonempty : word ≠ "") (hword : ∀ c ∈ word.toList, c.utf8Size = 1)
    (h : TurnsFrom text word start) : (String.Pos.Raw.mk start).IsValid text := by
  induction h with
  | first => exact isValid_iff.2 ⟨[], text.toList, rfl, rfl⟩
  | on h hturn ih =>
    obtain ⟨cs, -, ⟨-, -, hover⟩ | ⟨offset, -, -, -, hvalid, hnext⟩⟩ :=
      turn_cases hnonempty hword ih
    · cases hover.symm.trans hturn
    · rw [hnext] at hturn
      split at hturn
      · cases hturn
      · cases hturn
        exact hvalid

end Turn

/-! ### The whole search -/

theorem occurrences_of_none {word : List UInt8} {bytes : Array UInt8} {start : ℕ}
    (h : findFrom? word bytes start = none) : occurrences word bytes start = [] := by
  unfold occurrences
  split
  · rfl
  next n hn => cases h.symm.trans hn

theorem occurrences_of_some {word : List UInt8} {bytes : Array UInt8} {start n : ℕ}
    (h : findFrom? word bytes start = some n) :
    occurrences word bytes start = n :: occurrences word bytes (n + 1) := by
  rw [occurrences]
  split
  next hn => cases h.symm.trans hn
  next m hm =>
    cases h.symm.trans hm
    rfl

/-- As many turns as there are offsets are enough, and the search comes to whether one of the
occurrences stands between delimiters or ends. -/
theorem search_eq {text word : String} (hnonempty : word ≠ "")
    (hword : ∀ c ∈ word.toList, c.utf8Size = 1) {turns start : ℕ}
    (hstart : (String.Pos.Raw.mk start).IsValid text) (hturns : text.utf8ByteSize < start + turns) :
    search text word turns start =
      .ok (some ((occurrences (bytesOf word) (bytesOf text).toArray start).any
        (setOff text word))) := by
  induction turns generalizing start with
  | zero =>
    have hle : start ≤ text.utf8ByteSize := hstart.le_rawEndPos
    omega
  | succ turns ih =>
    obtain ⟨cs, -, ⟨-, hfind, hturn⟩ | ⟨offset, -, hfind, -, hvalid, hturn⟩⟩ :=
      turn_cases hnonempty hword hstart
    · rw [search, hturn, occurrences_of_none hfind]
      rfl
    · rw [search, hturn, occurrences_of_some hfind, List.any_cons]
      cases setOff text word (start + offset) with
      | true => rfl
      | false => exact ih hvalid (by omega)

theorem containsWord_eq {text word : String} (h : word ≠ "") :
    containsWord text word =
      (occurrences (bytesOf word) (bytesOf text).toArray 0).any (setOff text word) := by
  have hempty : word.isEmpty = false := by simp [h]
  rw [containsWord, hempty]
  rfl

end Switchboard.Matcher

namespace Switchboard

open Matcher

/-- Whatever the text, the search for the name of a selector goes through it without a fault. Each of
its turns cuts the text at an offset in the text between two characters. Where it finds the word, the
byte in front of the word and the byte behind it are bytes of the text, unless the text begins or ends
there. The turn comes to a result, or the search goes on from a later offset. So it is over after no
more turns than there are offsets, and says whether the text contains the word. -/
theorem search_faultless (text : String) (s : Selector) :
    (∀ start, TurnsFrom text s.name start →
      start ≤ text.utf8ByteSize ∧ (String.Pos.Raw.mk start).IsValid text ∧
      ∃ cs t, behind text start = .ok cs ∧ turn text s.name start = .ok t ∧
        (∀ offset, firstOffset? s.name.toList cs = some offset →
          let begin := start + offset
          let stop := begin + s.name.utf8ByteSize
          (begin ≠ 0 → begin - 1 < text.utf8ByteSize) ∧
            (stop ≠ text.utf8ByteSize → stop < text.utf8ByteSize)) ∧
        ∀ next, t = .on next → start < next) ∧
      search text s.name (text.utf8ByteSize + 1) 0 = .ok (some (containsWord text s.name)) := by
  obtain ⟨hnonempty, hchars⟩ := Selector.isName_iff.1 s.isName_name
  have hword : ∀ c ∈ s.name.toList, c.utf8Size = 1 := fun c hc => (hchars c hc).utf8Size_eq_one
  constructor
  · intro start hstart
    have hvalid := hstart.isValid hnonempty hword
    have hpos : s.name.utf8ByteSize ≠ 0 := mt String.utf8ByteSize_eq_zero_iff.1 hnonempty
    refine ⟨hvalid.le_rawEndPos, hvalid, ?_⟩
    obtain ⟨cs, hbehind, ⟨hfirst, -, hturn⟩ | ⟨offset, hfirst, -, hinside, -, hturn⟩⟩ :=
      turn_cases hnonempty hword hvalid
    · refine ⟨cs, _, hbehind, hturn, fun offset hoffset => ?_, fun next hnext => ?_⟩
      · cases hfirst.symm.trans hoffset
      · cases hnext
    · refine ⟨cs, _, hbehind, hturn, fun offset' hoffset => ?_, fun next hnext => ?_⟩
      · cases hfirst.symm.trans hoffset
        exact ⟨fun _ => by omega, fun _ => by omega⟩
      · split at hnext
        · cases hnext
        · cases hnext
          omega
  · rw [search_eq hnonempty hword (TurnsFrom.first.isValid hnonempty hword) (by omega),
      containsWord_eq hnonempty]

/-- A word of a longer character is another matter: the second turn would begin inside of it. -/
example : search "éé" "é" 5 0 = .error (.cut 1) := by decide +kernel

end Switchboard
