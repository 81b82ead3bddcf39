import ClassWiki.Tree.Node

/-!
# Byte offsets and characters

The range of a node counts bytes, its text is made of characters.  In the bytes of a text a
character is a first byte with the trailing bytes that belong to it, and reading goes on behind
them as if it began there.  So a range from one character to another is the encoding of what
stands between them, and a range that begins with a trailing byte is the encoding of nothing.
-/

namespace ClassWiki

namespace Utf8

/-! ## Bytes of a character -/

theorem toNat_toUInt8 {n : Nat} (h : n < 0x100) : n.toUInt8.toNat = n :=
  UInt8.toNat_ofNat_of_lt' h

theorem toNat_lt (c : Char) : c.toNat < 0x110000 := by
  have hvalid : c.toNat < 0xD800 ∨ 0xDFFF < c.toNat ∧ c.toNat < 0x110000 := c.valid
  omega

theorem lead?_toUInt8 {n : Nat} (h : n < 0x100) :
    lead? n.toUInt8 =
      if n < 0xC0 then none
      else if n < 0xE0 then some ⟨1, n - 0xC0, 0x80⟩
      else if n < 0xF0 then some ⟨2, n - 0xE0, 0x800⟩
      else if n < 0xF8 then some ⟨3, n - 0xF0, 0x10000⟩
      else none := by
  simp only [lead?, toNat_toUInt8 h]

theorem trail?_toUInt8 {low : Nat} (h : low < 0x40) : trail? (0x80 + low).toUInt8 = some low := by
  have hbyte : (0x80 + low).toUInt8.toNat = 0x80 + low := toNat_toUInt8 (by omega)
  have hrange : 0x80 + low < 0xC0 := by omega
  simp only [trail?, hbyte]
  simp [hrange]

/-- The number without its last so many groups of six bits. -/
def leading (n : Nat) : Nat → Nat
  | 0 => n
  | count + 1 => leading n count / 0x40

/-- A byte for each of the last so many groups of six bits. -/
def trailing (n : Nat) : Nat → Bytes
  | 0 => []
  | count + 1 => (0x80 + leading n count % 0x40).toUInt8 :: trailing n count

theorem isSome_trail?_of_mem_trailing {n count : Nat} {b : UInt8} (h : b ∈ trailing n count) :
    (trail? b).isSome = true := by
  induction count with
  | zero => cases h
  | succ count ih =>
      rcases List.mem_cons.1 h with rfl | h
      · rw [trail?_toUInt8 (Nat.mod_lt _ (by decide))]
        rfl
      · exact ih h

/-- A character is one byte, or a first byte that announces the trailing bytes behind it. -/
theorem encodeChar_cases (c : Char) :
    (c.toNat < 0x80 ∧ encodeChar c = [c.toNat.toUInt8]) ∨
      ∃ first count least, encodeChar c = first :: trailing c.toNat (count + 1) ∧
        lead? first = some ⟨count + 1, leading c.toNat (count + 1), least⟩ ∧
        least ≤ c.toNat := by
  have hlt := toNat_lt c
  by_cases hone : c.toNat < 0x80
  · exact .inl ⟨hone, if_pos hone⟩
  right
  by_cases htwo : c.toNat < 0x800
  · refine ⟨(0xC0 + c.toNat / 0x40).toUInt8, 0, 0x80, ?_, ?_, by omega⟩
    · simp [encodeChar, hone, htwo, trailing, leading]
    · rw [lead?_toUInt8 (by omega), if_neg (by omega), if_pos (by omega),
        Nat.add_sub_cancel_left]
      rfl
  by_cases hthree : c.toNat < 0x10000
  · refine ⟨(0xE0 + c.toNat / 0x1000).toUInt8, 1, 0x800, ?_, ?_, by omega⟩
    · simp [encodeChar, hone, htwo, hthree, trailing, leading]
    · rw [lead?_toUInt8 (by omega), if_neg (by omega), if_neg (by omega), if_pos (by omega),
        Nat.add_sub_cancel_left]
      simp [leading, Nat.div_div_eq_div_mul]
  · refine ⟨(0xF0 + c.toNat / 0x40000).toUInt8, 2, 0x10000, ?_, ?_, by omega⟩
    · simp [encodeChar, hone, htwo, hthree, trailing, leading, Nat.div_div_eq_div_mul]
    · rw [lead?_toUInt8 (by omega), if_neg (by omega), if_neg (by omega), if_neg (by omega),
        if_pos (by omega), Nat.add_sub_cancel_left]
      simp [leading, Nat.div_div_eq_div_mul]

/-- The bytes of a character are those of the standard encoding. -/
theorem encodeChar_eq (c : Char) : encodeChar c = String.utf8EncodeChar c := by
  have hlt : c.val.toNat < 0x110000 := toNat_lt c
  unfold encodeChar String.utf8EncodeChar Char.toNat
  generalize c.val.toNat = n at hlt
  by_cases hone : n < 0x80
  · rw [if_pos hone, if_pos (by omega)]
  by_cases htwo : n < 0x800
  · have hfirst : n / 0x40 % 0x20 = n / 0x40 := Nat.mod_eq_of_lt (by omega)
    rw [if_neg hone, if_pos htwo, if_neg (by omega), if_pos (by omega), hfirst]
    simp only [Nat.add_comm, Nat.toUInt8_eq]
  by_cases hthree : n < 0x10000
  · have hfirst : n / 0x1000 % 0x10 = n / 0x1000 := Nat.mod_eq_of_lt (by omega)
    rw [if_neg hone, if_neg htwo, if_pos hthree, if_neg (by omega), if_neg (by omega),
      if_pos (by omega), hfirst]
    simp only [Nat.add_comm, Nat.toUInt8_eq]
  · have hfirst : n / 0x40000 % 0x8 = n / 0x40000 := Nat.mod_eq_of_lt (by omega)
    rw [if_neg hone, if_neg htwo, if_neg hthree, if_neg (by omega), if_neg (by omega),
      if_neg (by omega), hfirst]
    simp only [Nat.add_comm, Nat.toUInt8_eq]

/-! ## Reading -/

theorem char?_toNat {least : Nat} {c : Char} (h : least ≤ c.toNat) :
    char? least c.toNat = some c := by
  have hvalid : c.toNat.isValidChar := c.valid
  rw [char?, if_pos ⟨h, hvalid⟩, Char.ofNat_toNat]

/-- One more group of six bits. -/
theorem leading_succ_mul_add (n count : Nat) :
    leading n (count + 1) * 0x40 + leading n count % 0x40 = leading n count :=
  Nat.div_add_mod' _ _

theorem decodeFrom?_trailing {least : Nat} {c : Char} (h : least ≤ c.toNat) (count : Nat)
    (bytes : Bytes) :
    decodeFrom? (some ⟨count + 1, leading c.toNat (count + 1), least⟩)
        (trailing c.toNat (count + 1) ++ bytes) =
      (decodeFrom? none bytes).map (c :: ·) := by
  have hlow : ∀ count, leading c.toNat count % 0x40 < 0x40 := fun _ => Nat.mod_lt _ (by decide)
  -- The bits read so far are always the number without the groups that are still awaited.
  induction count with
  | zero =>
      rw [trailing, List.cons_append, decodeFrom?, trail?_toUInt8 (hlow 0)]
      simp only [leading_succ_mul_add]
      rw [leading, if_pos (Nat.le_refl 1), char?_toNat h]
      rfl
  | succ count ih =>
      rw [trailing, List.cons_append, decodeFrom?, trail?_toUInt8 (hlow _)]
      simp only [leading_succ_mul_add]
      rw [if_neg (by omega)]
      exact ih

/-- Behind a character reading goes on as if it began there. -/
theorem decodeFrom?_encodeChar_append (c : Char) (bytes : Bytes) :
    decodeFrom? none (encodeChar c ++ bytes) = (decodeFrom? none bytes).map (c :: ·) := by
  rcases encodeChar_cases c with ⟨hone, hbytes⟩ | ⟨first, count, least, hbytes, hlead, hleast⟩
  · have hbyte : c.toNat.toUInt8.toNat = c.toNat := toNat_toUInt8 (by omega)
    rw [hbytes, List.cons_append, List.nil_append, decodeFrom?, hbyte, if_pos hone,
      Char.ofNat_toNat]
  · have hfirst : ¬first.toNat < 0x80 := by
      intro hlt
      simp [lead?, show first.toNat < 0xC0 by omega] at hlead
    rw [hbytes, List.cons_append, decodeFrom?, if_neg hfirst, hlead]
    exact decodeFrom?_trailing hleast count bytes

theorem decode?_encode (text : Text) : decode? (encode text) = some text := by
  induction text with
  | nil => rfl
  | cons c text ih =>
      rw [decode?] at ih ⊢
      rw [encode_cons, decodeFrom?_encodeChar_append, ih]
      rfl

/-! ## Inside of a character -/

theorem decode?_of_isSome_trail? {b : UInt8} (h : (trail? b).isSome = true) (bytes : Bytes) :
    decode? (b :: bytes) = none := by
  have hrange : 0x80 ≤ b.toNat ∧ b.toNat < 0xC0 := by simpa [trail?] using h
  have hlead : lead? b = none := if_pos hrange.2
  rw [decode?, decodeFrom?, if_neg (by omega), hlead]

theorem isSome_trail?_of_mem_tail {c : Char} {b : UInt8} (h : b ∈ (encodeChar c).tail) :
    (trail? b).isSome = true := by
  rcases encodeChar_cases c with ⟨-, hbytes⟩ | ⟨first, count, least, hbytes, -, -⟩
  · rw [hbytes] at h
    cases h
  · rw [hbytes] at h
    exact isSome_trail?_of_mem_trailing h

theorem encode_split {text : Text} {i : Nat} {c : Char} (h : text[i]? = some c) :
    encode text = encode (text.take i) ++ (encodeChar c ++ encode (text.drop (i + 1))) := by
  obtain ⟨hi, rfl⟩ := List.getElem?_eq_some_iff.1 h
  rw [← encode_cons, ← encode_append, List.getElem_cons_drop, List.take_append_drop]

theorem size_take_succ {text : Text} {i : Nat} {c : Char} (h : text[i]? = some c) :
    size (text.take (i + 1)) = size (text.take i) + (encodeChar c).length := by
  rw [List.take_add_one, h, size_append]
  simp [size]

/-- The byte at an offset between the first byte of a character and the next character. -/
theorem exists_trailing_at {text : Text} {i offset : Nat} (hstart : size (text.take i) < offset)
    (hstop : offset < size (text.take (i + 1))) :
    ∃ b, (encode text)[offset]? = some b ∧ (trail? b).isSome = true := by
  cases hc : text[i]? with
  | none =>
      rw [List.take_add_one, hc, Option.toList_none, List.append_nil] at hstop
      omega
  | some c =>
      rw [size_take_succ hc] at hstop
      obtain ⟨m, rfl⟩ : ∃ m, offset = size (text.take i) + (m + 1) :=
        ⟨offset - size (text.take i) - 1, by omega⟩
      have hinside : m + 1 < (encodeChar c).length := by omega
      have hbyte : (encode text)[size (text.take i) + (m + 1)]? = (encodeChar c).tail[m]? := by
        rw [encode_split hc, List.getElem?_append_right (Nat.le_of_lt hstart), size,
          Nat.add_sub_cancel_left, List.getElem?_append_left hinside, List.getElem?_tail]
      have htail : m < (encodeChar c).tail.length := by
        rw [List.length_tail]
        omega
      rw [hbyte, List.getElem?_eq_getElem htail]
      exact ⟨_, rfl, isSome_trail?_of_mem_tail (List.getElem_mem htail)⟩

end Utf8

/-! ## Ranges of bytes -/

namespace Node

theorem slice_append (before inside after : Bytes) :
    slice (before ++ (inside ++ after)) before.length (before.length + inside.length) =
      inside := by
  simp [slice]

/-- The bytes between two characters are those of the text between them. -/
theorem slice_encode (text : Text) {i j : Nat} (h : i ≤ j) :
    slice (Utf8.encode text) (Utf8.size (text.take i)) (Utf8.size (text.take j)) =
      Utf8.encode (text.extract i j) := by
  have hupTo : text.take j = text.take i ++ text.extract i j := by
    rw [← List.take_add, Nat.add_sub_cancel' h]
  have hsplit : Utf8.encode text = Utf8.encode (text.take i) ++
      (Utf8.encode (text.extract i j) ++ Utf8.encode (text.drop j)) := by
    rw [← List.append_assoc, ← Utf8.encode_append, ← hupTo, ← Utf8.encode_append,
      List.take_append_drop]
  rw [hupTo, Utf8.size_append, hsplit]
  exact slice_append _ _ _

theorem exists_slice_eq_cons {source : Bytes} {start stop : Nat} {b : UInt8}
    (hb : source[start]? = some b) (h : start < stop) :
    ∃ bytes, slice source start stop = b :: bytes := by
  obtain ⟨hstart, rfl⟩ := List.getElem?_eq_some_iff.1 hb
  obtain ⟨length, hlength⟩ : ∃ length, stop - start = length + 1 := ⟨stop - start - 1, by omega⟩
  rw [slice, hlength, List.drop_eq_getElem_cons hstart, List.take_succ_cons]
  exact ⟨_, rfl⟩

/-- The bytes of a text are those of the standard encoding.  In them the range from one
character to another reads as what stands between the two, and a range that begins inside of a
character reads as no text unless it is empty. -/
theorem offsets_agree (text : Text) (node : Node) :
    Utf8.encode text = text.flatMap String.utf8EncodeChar ∧
      (∀ i j, i ≤ j → node.start = Utf8.size (text.take i) →
        node.stop = Utf8.size (text.take j) →
          node.text? (Utf8.encode text) = some (text.extract i j)) ∧
      ∀ i, Utf8.size (text.take i) < node.start → node.start < Utf8.size (text.take (i + 1)) →
        node.start < node.stop → node.text? (Utf8.encode text) = none := by
  refine ⟨?_, ?_, ?_⟩
  · rw [Utf8.encode, funext Utf8.encodeChar_eq]
  · intro i j h hstart hstop
    rw [text?, hstart, hstop, slice_encode text h, Utf8.decode?_encode]
  · intro i hafter hbefore h
    obtain ⟨b, hb, htrail⟩ := Utf8.exists_trailing_at hafter hbefore
    obtain ⟨bytes, hslice⟩ := exists_slice_eq_cons hb h
    rw [text?, hslice, Utf8.decode?_of_isSome_trail? htrail]

namespace Sample

/-- Characters of one, two, four and again one byte. -/
def mixed : Text := "aé😀b"

def mixedNode (start stop : Nat) : Node := ⟨"comment", true, none, start, stop, []⟩

end Sample

theorem offsets_agree_sample :
    Utf8.size (Sample.mixed.take 1) = 1 ∧ Utf8.size (Sample.mixed.take 3) = 7 ∧
      (Sample.mixedNode 1 7).text? (Utf8.encode Sample.mixed) = some "é😀" ∧
      Utf8.size (Sample.mixed.take 2) = 3 ∧
      (Sample.mixedNode 4 7).text? (Utf8.encode Sample.mixed) = none := by
  have hone : Utf8.size (Sample.mixed.take 1) = 1 := by decide
  have htwo : Utf8.size (Sample.mixed.take 2) = 3 := by decide
  have hthree : Utf8.size (Sample.mixed.take 3) = 7 := by decide
  have hread := (offsets_agree Sample.mixed (Sample.mixedNode 1 7)).2.1 1 3 (by decide)
    hone.symm hthree.symm
  have hrefused := (offsets_agree Sample.mixed (Sample.mixedNode 4 7)).2.2 2 (by rw [htwo]; decide)
    (by rw [hthree]; decide) (by decide)
  exact ⟨hone, hthree, hread, htwo, hrefused⟩

end Node

end ClassWiki
