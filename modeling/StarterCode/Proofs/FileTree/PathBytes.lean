import StarterCode.FileTree.Path

/-!
# Paths from bytes

What a path from bytes is, by the way the bytes go on: where they begin with the encoding of a
character it is that character and the path of the rest, and otherwise some bytes between marks and
the path of the rest (`charactersFrom_encode_append`, `charactersFrom_of_none`). What holds of all
bytes is shown by induction along these two ways (`bytesInduction`).

No byte of a path is zero, so none of its characters is the mark. It follows that a path is a text
by itself exactly when its bytes encode one (`isText_ofBytes_iff`), and that the bytes can be read
back from the path, so that different bytes are different paths (`ofBytes_injective`).
-/

set_option autoImplicit false

namespace StarterCode.Path

/-! ## One step -/

theorem firstCharacter?_encode_append (c : Char) (rest : List UInt8) :
    firstCharacter? (String.utf8EncodeChar c ++ rest) = some c := by
  rw [firstCharacter?, List.toByteArray_append, ByteArray.utf8DecodeChar?_utf8EncodeChar_append]

theorem exists_of_firstCharacter? {bytes : List UInt8} {c : Char}
    (h : firstCharacter? bytes = some c) : ∃ rest, bytes = String.utf8EncodeChar c ++ rest := by
  obtain ⟨rest, hrest⟩ := ByteArray.exists_of_utf8DecodeChar?_eq_some h
  refine ⟨rest.data.toList, ?_⟩
  simpa using congrArg (·.data.toList) hrest

theorem charactersFrom_eq_drop (skip : Nat) (bytes : List UInt8) :
    charactersFrom skip bytes = charactersFrom 0 (bytes.drop skip) := by
  induction bytes generalizing skip with
  | nil => cases skip <;> rfl
  | cons first rest ih =>
    cases skip with
    | zero => rfl
    | succ skip => exact ih skip

theorem exists_encode_eq_cons (c : Char) :
    ∃ first others, String.utf8EncodeChar c = first :: others ∧
      others.length = c.utf8Size - 1 := by
  have hlength := String.length_utf8EncodeChar c
  have hpos := c.utf8Size_pos
  obtain ⟨first, others, hbytes⟩ : ∃ first others, String.utf8EncodeChar c = first :: others :=
    List.exists_cons_of_length_pos (by omega)
  rw [hbytes, List.length_cons] at hlength
  exact ⟨first, others, hbytes, by omega⟩

/-- The path of bytes that begin with the encoding of a character. -/
theorem charactersFrom_encode_append (c : Char) (rest : List UInt8) :
    charactersFrom 0 (String.utf8EncodeChar c ++ rest) = c :: charactersFrom 0 rest := by
  have hfirst := firstCharacter?_encode_append c rest
  obtain ⟨first, others, hbytes, hlength⟩ := exists_encode_eq_cons c
  rw [hbytes, List.cons_append] at hfirst ⊢
  simp only [charactersFrom, hfirst]
  rw [← hlength, charactersFrom_eq_drop, List.drop_left]

/-- The path of bytes that begin with no character. -/
theorem charactersFrom_of_none {first : UInt8} {rest : List UInt8}
    (h : firstCharacter? (first :: rest) = none) :
    charactersFrom 0 (first :: rest) = broken (first :: rest.take (brokenRest first rest)) ++
      charactersFrom 0 (rest.drop (brokenRest first rest)) := by
  simp only [charactersFrom, h]
  rw [charactersFrom_eq_drop]

/-- Induction along the characters of a path and its bytes that belong to none. -/
@[elab_as_elim]
theorem bytesInduction {motive : List UInt8 → Prop} (nil : motive [])
    (character : ∀ c rest, motive rest → motive (String.utf8EncodeChar c ++ rest))
    (other : ∀ first rest, firstCharacter? (first :: rest) = none →
      motive (rest.drop (brokenRest first rest)) → motive (first :: rest))
    (bytes : List UInt8) : motive bytes :=
  match bytes with
  | [] => nil
  | first :: rest => by
    cases hfirst : firstCharacter? (first :: rest) with
    | none =>
      exact other first rest hfirst (bytesInduction nil character other _)
    | some c =>
      obtain ⟨behind, hbehind⟩ := exists_of_firstCharacter? hfirst
      have hlength : rest.length + 1 = c.utf8Size + behind.length := by
        rw [← List.length_cons, hbehind, List.length_append, String.length_utf8EncodeChar]
      have hpos := c.utf8Size_pos
      rw [hbehind]
      exact character c behind (bytesInduction nil character other behind)
termination_by bytes.length
decreasing_by
  · rw [List.length_drop, List.length_cons]
    omega
  · rw [List.length_cons]
    omega

/-! ## Texts -/

/-- A text is the path of its encoding. -/
theorem charactersFrom_flatMap_encode (text : List Char) :
    charactersFrom 0 (text.flatMap String.utf8EncodeChar) = text := by
  induction text with
  | nil => rfl
  | cons c rest ih => rw [List.flatMap_cons, charactersFrom_encode_append, ih]

/-- Bytes without a mark in their path are the encoding of the path. -/
theorem flatMap_encode_charactersFrom (bytes : List UInt8) :
    mark ∉ charactersFrom 0 bytes →
      (charactersFrom 0 bytes).flatMap String.utf8EncodeChar = bytes := by
  induction bytes using bytesInduction with
  | nil => exact fun _ => rfl
  | character c rest ih =>
    intro h
    rw [charactersFrom_encode_append] at h ⊢
    rw [List.flatMap_cons, ih (fun hmem => h (List.mem_cons_of_mem _ hmem))]
  | other first rest hnone _ =>
    intro h
    rw [charactersFrom_of_none hnone] at h
    exact absurd (List.mem_append_left _ List.mem_cons_self) h

theorem isText_iff {path : String} : isText path = true ↔ mark ∉ path.toList := by
  simp [isText]

theorem toUTF8_eq (text : String) :
    text.toUTF8 = (text.toList.flatMap String.utf8EncodeChar).toByteArray := by
  rw [String.toUTF8_eq_toByteArray, ← String.utf8Encode_toList, List.utf8Encode]

/-- The encoding of a text is the path that the text is. -/
theorem ofBytes_eq_of_encodes {bytes : List UInt8} {text : String}
    (h : bytes.toByteArray = text.toUTF8) : ofBytes bytes = text := by
  rw [toUTF8_eq, List.toByteArray_inj] at h
  rw [ofBytes, h, charactersFrom_flatMap_encode, String.ofList_toList]

/-- **When a path is a text.** Bytes without zero are a path without marks exactly when they encode
a text. -/
theorem isText_ofBytes_iff {bytes : List UInt8} (hzero : 0 ∉ bytes) :
    isText (ofBytes bytes) = true ↔ ∃ text : String, bytes.toByteArray = text.toUTF8 := by
  rw [isText_iff]
  constructor
  · intro h
    rw [ofBytes, String.toList_ofList] at h
    refine ⟨ofBytes bytes, ?_⟩
    rw [toUTF8_eq, ofBytes, String.toList_ofList, flatMap_encode_charactersFrom bytes h]
  · rintro ⟨text, hbytes⟩ hmem
    rw [ofBytes_eq_of_encodes hbytes] at hmem
    rw [toUTF8_eq, List.toByteArray_inj] at hbytes
    -- the mark is encoded by a zero
    have hmark : 0 ∈ String.utf8EncodeChar mark := by decide
    exact hzero (hbytes ▸ List.mem_flatMap.mpr ⟨mark, hmem, hmark⟩)

/-- A text is shown as it is. -/
theorem shown_of_isText {path : String} (h : isText path = true) : shown path = path := by
  have hkept : ∀ text : List Char, mark ∉ text → shownFrom false text = text := by
    intro text
    induction text with
    | nil => exact fun _ => rfl
    | cons c rest ih =>
      intro h
      have hc : c ≠ mark := fun heq => h (heq ▸ List.mem_cons_self)
      rw [shownFrom, if_neg hc, if_neg Bool.false_ne_true,
        ih (fun hmem => h (List.mem_cons_of_mem _ hmem))]
  rw [shown, hkept _ (isText_iff.mp h), String.ofList_toList]

/-! ## Reading the bytes back -/

/-- The byte with the given digits. -/
def byteOf (high low : Char) : UInt8 :=
  UInt8.ofNat (16 * Text.hexDigits.idxOf high + Text.hexDigits.idxOf low)

/-- The bytes of a path, where `between` says whether it starts between two marks. -/
def bytesFrom : (between : Bool) → List Char → List UInt8
  | _, [] => []
  | false, c :: rest =>
    if c = mark then bytesFrom true rest else String.utf8EncodeChar c ++ bytesFrom false rest
  | true, c :: rest =>
    if c = mark then bytesFrom false rest
    else
      match rest with
      | [] => []
      | low :: rest => byteOf c low :: bytesFrom true rest

@[simp] theorem bytesFrom_mark (between : Bool) (rest : List Char) :
    bytesFrom between (mark :: rest) = bytesFrom (!between) rest := by
  cases between
  · rw [bytesFrom, if_pos rfl, Bool.not_false]
  · cases rest <;> simp [bytesFrom]

theorem getD_hexDigits : ∀ n < 16, Text.hexDigits.getD n '0' ≠ mark ∧
    Text.hexDigits.idxOf (Text.hexDigits.getD n '0') = n := by
  decide

theorem bytesFrom_hex_append (byte : UInt8) (rest : List Char) :
    bytesFrom true (Text.hex 2 byte.toNat ++ rest) = byte :: bytesFrom true rest := by
  have hbyte := byte.toNat_lt
  obtain ⟨hmark, hhigh⟩ := getD_hexDigits (byte.toNat / 16 % 16) (by omega)
  obtain ⟨-, hlow⟩ := getD_hexDigits (byte.toNat % 16) (by omega)
  have hvalue : 16 * (byte.toNat / 16 % 16) + byte.toNat % 16 = byte.toNat := by omega
  simp only [Text.hex, List.nil_append, List.cons_append, bytesFrom, if_neg hmark]
  rw [byteOf, hhigh, hlow, hvalue, UInt8.ofNat_toNat]

theorem bytesFrom_broken_append (bytes : List UInt8) (rest : List Char) :
    bytesFrom false (broken bytes ++ rest) = bytes ++ bytesFrom false rest := by
  have hbetween : bytesFrom true ((bytes.flatMap fun byte => Text.hex 2 byte.toNat) ++
      mark :: rest) = bytes ++ bytesFrom false rest := by
    induction bytes with
    | nil => rw [List.flatMap_nil, List.nil_append, bytesFrom_mark, Bool.not_true, List.nil_append]
    | cons byte bytes ih =>
      rw [List.flatMap_cons, List.append_assoc, bytesFrom_hex_append, ih, List.cons_append]
  rw [broken, List.cons_append, List.cons_append, List.append_assoc, bytesFrom_mark]
  exact hbetween

/-- The bytes of a path can be read back from it. -/
theorem bytesFrom_charactersFrom (bytes : List UInt8) :
    0 ∉ bytes → bytesFrom false (charactersFrom 0 bytes) = bytes := by
  induction bytes using bytesInduction with
  | nil => exact fun _ => rfl
  | character c rest ih =>
    intro hzero
    have hc : c ≠ mark := by
      rintro rfl
      exact hzero (List.mem_append_left _ (by decide))
    rw [charactersFrom_encode_append, bytesFrom, if_neg hc,
      ih (fun hmem => hzero (List.mem_append_right _ hmem))]
  | other first rest hnone ih =>
    intro hzero
    rw [charactersFrom_of_none hnone, bytesFrom_broken_append,
      ih (fun hmem => hzero (List.mem_cons_of_mem _ (List.mem_of_mem_drop hmem))),
      List.cons_append, List.take_append_drop]

/-- **Nothing is lost.** Different bytes without zero are different paths. -/
theorem ofBytes_injective {bytes bytes' : List UInt8} (hzero : 0 ∉ bytes) (hzero' : 0 ∉ bytes')
    (h : ofBytes bytes = ofBytes bytes') : bytes = bytes' := by
  rw [ofBytes, ofBytes, String.ofList_inj] at h
  rw [← bytesFrom_charactersFrom bytes hzero, h, bytesFrom_charactersFrom bytes' hzero']

end StarterCode.Path
