import RecipeRunner.Text.Utf8
/-!
# Texts through their bytes

The bytes of a text are those of its characters in a row, and reading them gives the text back.  A
line feed is a byte of its own and part of no other character, so a text may be cut at the bytes
that are line feeds.

* `decode_encode`: a text is read back from its bytes.
* `newline_mem_encode_iff`: the line feeds of a text are those among its bytes.
-/

namespace RecipeRunner.Text.Utf8

/-! ## The bytes of a text -/

theorem toList_loop (bytes : ByteArray) (i : Nat) (read : List UInt8) :
    ByteArray.toList.loop bytes i read = read.reverse ++ bytes.data.toList.drop i := by
  fun_induction ByteArray.toList.loop bytes i read with
  | case1 i read hi ih =>
    have hget : bytes.get! i = bytes.data.toList[i] := by
      change bytes.data[i]! = bytes.data.toList[i]
      rw [getElem!_pos bytes.data i hi, Array.getElem_toList]
    rw [ih, hget, List.drop_eq_getElem_cons (i := i) (by simpa using hi)]
    simp
  | case2 i read hi =>
    rw [List.drop_eq_nil_of_le (by simpa using hi), List.append_nil]

theorem encode_eq (s : String) : encode s = s.toList.flatMap String.utf8EncodeChar := by
  have hdata : s.toUTF8 = (s.toList.flatMap String.utf8EncodeChar).toByteArray :=
    (String.utf8Encode_toList (b := s)).symm
  rw [encode, ByteArray.toList, toList_loop, hdata, List.toList_data_toByteArray]
  rfl

theorem encode_append (s t : String) : encode (s ++ t) = encode s ++ encode t := by
  simp [encode_eq]

theorem encode_empty : encode "" = [] := by
  simp [encode_eq]

theorem encode_newline : encode "\n" = [10] := by
  rw [encode_eq]
  rfl

/-! ## Reading a character -/

section

variable {b : UInt8} {rest : List UInt8} {u : Unfinished} {bits further : Nat}
  {least greatest : UInt8}

theorem decodeFrom_char {c : Char} (h : lead b = .char c) :
    decodeFrom none (b :: rest) = c :: decodeFrom none rest := by
  simp only [decodeFrom, h]

theorem decodeFrom_unfinished (h : lead b = .unfinished u) :
    decodeFrom none (b :: rest) = decodeFrom (some u) rest := by
  simp only [decodeFrom, h]

theorem decodeFrom_last (h : least ≤ b ∧ b ≤ greatest) :
    decodeFrom (some ⟨bits, 0, least, greatest⟩) (b :: rest) =
      Char.ofNat (bits * 64 + (b.toNat - 0x80)) :: decodeFrom none rest := by
  simp only [decodeFrom, h.1, h.2, decide_true, Bool.and_self, if_true]

theorem decodeFrom_further (h : least ≤ b ∧ b ≤ greatest) :
    decodeFrom (some ⟨bits, further + 1, least, greatest⟩) (b :: rest) =
      decodeFrom (some { bits := bits * 64 + (b.toNat - 0x80), further := further }) rest := by
  simp only [decodeFrom, h.1, h.2, decide_true, Bool.and_self, if_true]

end

theorem toNat_ofNat {n : Nat} (h : n < 256) : (UInt8.ofNat n).toNat = n :=
  UInt8.toNat_ofNat_of_lt' h

section

variable {n : Nat}

theorem lead_one (h : n < 0x80) : lead (UInt8.ofNat n) = .char (Char.ofNat n) := by
  simp only [lead, UInt8.lt_iff_toNat_lt, toNat_ofNat (Nat.lt_trans h (by decide))]
  exact if_pos h

/-- The first of two bytes. -/
theorem lead_two (hleast : 0xc2 ≤ n) (hmost : n < 0xe0) :
    lead (UInt8.ofNat n) = .unfinished { bits := n - 0xc0, further := 0 } := by
  simp only [lead, UInt8.lt_iff_toNat_lt, toNat_ofNat (Nat.lt_trans hmost (by decide)),
    UInt8.reduceToNat]
  rw [if_neg (by omega), if_neg (by omega), if_pos hmost]

/-- The first of three bytes. -/
theorem lead_three (hleast : 0xe0 ≤ n) (hmost : n < 0xf0) :
    lead (UInt8.ofNat n) = .unfinished ⟨n - 0xe0, 1, if n = 0xe0 then 0xa0 else 0x80,
      if n = 0xed then 0x9f else 0xbf⟩ := by
  simp only [lead, UInt8.lt_iff_toNat_lt, ← UInt8.toNat_inj,
    toNat_ofNat (Nat.lt_trans hmost (by decide)), UInt8.reduceToNat]
  rw [if_neg (by omega), if_neg (by omega), if_neg (by omega)]
  by_cases hfirst : n = 0xe0
  · simp [hfirst]
  · by_cases hlast : n = 0xed
    · simp [hlast]
    · simp [hfirst, hlast, hmost]

/-- The first of four bytes. -/
theorem lead_four (hleast : 0xf0 ≤ n) (hmost : n ≤ 0xf4) :
    lead (UInt8.ofNat n) = .unfinished ⟨n - 0xf0, 2, if n = 0xf0 then 0x90 else 0x80,
      if n = 0xf4 then 0x8f else 0xbf⟩ := by
  simp only [lead, UInt8.lt_iff_toNat_lt, ← UInt8.toNat_inj,
    toNat_ofNat (Nat.lt_of_le_of_lt hmost (by decide)), UInt8.reduceToNat]
  rw [if_neg (by omega), if_neg (by omega), if_neg (by omega), if_neg (by omega),
    if_neg (by omega), if_neg (by omega)]
  by_cases hfirst : n = 0xf0
  · simp [hfirst]
  · by_cases hlast : n = 0xf4
    · simp [hlast]
    · have hbelow : n < 0xf4 := by omega
      simp [hfirst, hlast, hbelow]

/-- A byte behind the first one of a character, with six bits of it. -/
def tail (n : Nat) : UInt8 :=
  UInt8.ofNat (n % 64 + 0x80)

theorem toNat_tail : (tail n).toNat = n % 64 + 0x80 :=
  toNat_ofNat (by omega)

theorem le_tail_le : 0x80 ≤ tail n ∧ tail n ≤ 0xbf := by
  simp only [UInt8.le_iff_toNat_le, toNat_tail, UInt8.reduceToNat]
  omega

end

/-! ## Reading a text -/

theorem encodeChar_eq (c : Char) : String.utf8EncodeChar c =
    if c.toNat ≤ 0x7f then [UInt8.ofNat c.toNat]
    else if c.toNat ≤ 0x7ff then [UInt8.ofNat (c.toNat / 64 % 32 + 0xc0), tail c.toNat]
    else if c.toNat ≤ 0xffff then
      [UInt8.ofNat (c.toNat / 4096 % 16 + 0xe0), tail (c.toNat / 64), tail c.toNat]
    else
      [UInt8.ofNat (c.toNat / 262144 % 8 + 0xf0), tail (c.toNat / 4096), tail (c.toNat / 64),
        tail c.toNat] :=
  rfl

section

variable {v : Nat}

theorem decodeFrom_two (hleast : 0x7f < v) (hmost : v ≤ 0x7ff) (rest : List UInt8) :
    decodeFrom none (UInt8.ofNat (v / 64 % 32 + 0xc0) :: tail v :: rest) =
      Char.ofNat v :: decodeFrom none rest := by
  rw [decodeFrom_unfinished (lead_two (by omega) (by omega)), decodeFrom_last le_tail_le,
    toNat_tail]
  have hbits : (v / 64 % 32 + 0xc0 - 0xc0) * 64 + (v % 64 + 0x80 - 0x80) = v := by omega
  rw [hbits]

/-- The first of three bytes keeps the second one from what two bytes hold and from what is no
character. -/
theorem decodeFrom_three (hleast : 0x7ff < v) (hmost : v ≤ 0xffff)
    (hvalid : v < 0xd800 ∨ 0xdfff < v) (rest : List UInt8) :
    decodeFrom none (UInt8.ofNat (v / 4096 % 16 + 0xe0) :: tail (v / 64) :: tail v :: rest) =
      Char.ofNat v :: decodeFrom none rest := by
  have hwithin : (if v / 4096 % 16 + 0xe0 = 0xe0 then 0xa0 else 0x80) ≤ tail (v / 64) ∧
      tail (v / 64) ≤ if v / 4096 % 16 + 0xe0 = 0xed then 0x9f else 0xbf := by
    simp only [UInt8.le_iff_toNat_le, toNat_tail, apply_ite UInt8.toNat, UInt8.reduceToNat]
    constructor
    · split <;> omega
    · split <;> omega
  rw [decodeFrom_unfinished (lead_three (by omega) (by omega)), decodeFrom_further hwithin,
    decodeFrom_last le_tail_le, toNat_tail, toNat_tail]
  have hbits : ((v / 4096 % 16 + 0xe0 - 0xe0) * 64 + (v / 64 % 64 + 0x80 - 0x80)) * 64 +
      (v % 64 + 0x80 - 0x80) = v := by omega
  rw [hbits]

/-- The first of four bytes keeps the second one from what three bytes hold and from what lies
behind the last character. -/
theorem decodeFrom_four (hleast : 0xffff < v) (hmost : v < 0x110000) (rest : List UInt8) :
    decodeFrom none (UInt8.ofNat (v / 262144 % 8 + 0xf0) :: tail (v / 4096) :: tail (v / 64) ::
      tail v :: rest) = Char.ofNat v :: decodeFrom none rest := by
  have hwithin : (if v / 262144 % 8 + 0xf0 = 0xf0 then 0x90 else 0x80) ≤ tail (v / 4096) ∧
      tail (v / 4096) ≤ if v / 262144 % 8 + 0xf0 = 0xf4 then 0x8f else 0xbf := by
    simp only [UInt8.le_iff_toNat_le, toNat_tail, apply_ite UInt8.toNat, UInt8.reduceToNat]
    constructor
    · split <;> omega
    · split <;> omega
  rw [decodeFrom_unfinished (lead_four (by omega) (by omega)), decodeFrom_further hwithin,
    decodeFrom_further le_tail_le, decodeFrom_last le_tail_le, toNat_tail, toNat_tail, toNat_tail]
  have hbits : (((v / 262144 % 8 + 0xf0 - 0xf0) * 64 + (v / 4096 % 64 + 0x80 - 0x80)) * 64 +
      (v / 64 % 64 + 0x80 - 0x80)) * 64 + (v % 64 + 0x80 - 0x80) = v := by omega
  rw [hbits]

end

/-- A character is read from its bytes, whatever follows. -/
theorem decodeFrom_encodeChar (c : Char) (rest : List UInt8) :
    decodeFrom none (String.utf8EncodeChar c ++ rest) = c :: decodeFrom none rest := by
  have hvalid : c.toNat < 0xd800 ∨ 0xdfff < c.toNat ∧ c.toNat < 0x110000 := c.valid
  have hchar : Char.ofNat c.toNat = c := Char.ofNat_toNat c
  rw [encodeChar_eq]
  split
  · next hone =>
    rw [List.singleton_append, decodeFrom_char (lead_one (by omega)), hchar]
  split
  · next htwo =>
    exact (decodeFrom_two (by omega) htwo rest).trans (by rw [hchar])
  split
  · next hthree =>
    exact (decodeFrom_three (by omega) hthree (by omega) rest).trans (by rw [hchar])
  · exact (decodeFrom_four (by omega) (by omega) rest).trans (by rw [hchar])

theorem decode_encode (s : String) : decode (encode s) = s := by
  have hchars : ∀ cs : List Char, decodeFrom none (cs.flatMap String.utf8EncodeChar) = cs := by
    intro cs
    induction cs with
    | nil => rfl
    | cons c cs ih => rw [List.flatMap_cons, decodeFrom_encodeChar, ih]
  rw [decode, encode_eq, hchars, String.ofList_toList]

theorem encode_eq_nil_iff {s : String} : encode s = [] ↔ s = "" := by
  refine ⟨fun h => ?_, fun h => h ▸ encode_empty⟩
  rw [← decode_encode s, h]
  rfl

/-! ## Line feeds -/

/-- The byte of a line feed is in no other character. -/
theorem newline_mem_encodeChar_iff {c : Char} : 10 ∈ String.utf8EncodeChar c ↔ c = '\n' := by
  have hfirst : ∀ n, n < 256 → n ≠ 10 → (10 : UInt8) ≠ UInt8.ofNat n := by
    intro n hn hne heq
    have := congrArg UInt8.toNat heq
    rw [toNat_ofNat hn] at this
    exact hne this.symm
  have htail : ∀ n, (10 : UInt8) ≠ tail n := fun n => hfirst _ (by omega) (by omega)
  have hc : c = '\n' ↔ c.toNat = 10 := by
    rw [← Char.toNat_inj]
    rfl
  rw [encodeChar_eq, hc]
  split
  · next hone =>
    by_cases hten : c.toNat = 10
    · simp [hten]
    · simpa [hten] using hfirst _ (by omega) hten
  · next hmany =>
    refine iff_of_false ?_ (by omega)
    split
    · simp only [List.mem_cons, List.not_mem_nil, htail, or_false]
      exact hfirst _ (by omega) (by omega)
    split
    · simp only [List.mem_cons, List.not_mem_nil, htail, or_false]
      exact hfirst _ (by omega) (by omega)
    · simp only [List.mem_cons, List.not_mem_nil, htail, or_false]
      exact hfirst _ (by omega) (by omega)

theorem newline_mem_encode_iff {s : String} : 10 ∈ encode s ↔ '\n' ∈ s.toList := by
  simp [encode_eq, newline_mem_encodeChar_iff]

end RecipeRunner.Text.Utf8
