import SyncGDrive.Local.Path

/-! Names that are not UTF-8 and the texts they are decoded to: a name that a directory can
hold always becomes a plain one, so every path below the root has a plain path with its key.
-/

namespace SyncGDrive

-----------------------------------------------------------------------------------------
-- Separators come from separators
-----------------------------------------------------------------------------------------

/-- Only one scalar is the separator: the others that are none become the null character. -/
theorem ofNat_eq_slash {scalar : Nat} (slash : Char.ofNat scalar = '/') : scalar = 0x2F := by
  unfold Char.ofNat at slash
  by_cases valid : scalar.isValidChar
  · rw [dif_pos valid] at slash
    have code : (Char.ofNatAux scalar valid).val.toNat = 0x2F := by
      rw [slash]
      rfl
    exact code
  · rw [dif_neg valid] at slash
    cases slash

/-- One more continuation byte. -/
def pushByte (scalar : Nat) (byte : UInt8) : Nat := scalar * 64 + (byte.toNat - 0x80)

theorem pushByte_mono {scalar scalar' : Nat} {byte byte' : UInt8} (le : scalar ≤ scalar')
    (inRange : byte ≤ byte')
    : pushByte scalar byte ≤ pushByte scalar' byte' := by
  have lower := UInt8.le_iff_toNat_le.mp inRange
  unfold pushByte
  omega

/-- The least scalar that a lead byte and its continuation bytes stand for. -/
def leastScalar (bits : Nat) (ranges : List (UInt8 × UInt8)) : Nat :=
  (ranges.map Prod.fst).foldl pushByte bits

/-- What is decoded is no less, by induction on the ranges. -/
theorem leastScalar_le {least bits scalar : Nat} {ranges : List (UInt8 × UInt8)}
    {bytes : List UInt8} (le : least ≤ bits)
    (decoded : (utf8Continue bits ranges bytes).1 = some scalar)
    : leastScalar least ranges ≤ scalar := by
  induction ranges generalizing least bits bytes with
  | nil => exact Nat.le_trans le (Nat.le_of_eq (Option.some.inj decoded))
  | cons range ranges ih =>
      obtain ⟨low, high⟩ := range
      cases bytes with
      | nil => cases decoded
      | cons byte rest =>
          simp only [utf8Continue] at decoded
          split at decoded
          · rename_i inRange
            simp only [leastScalar, List.map_cons, List.foldl_cons]
            exact ih (pushByte_mono le inRange.1) decoded
          · cases decoded

/-- Continuation bytes follow no ASCII byte, and no sequence is overlong. -/
theorem utf8Lead_least
    : ∀ byte : Fin 256, ∀ lead ∈ utf8Lead (UInt8.ofFin byte),
        leastScalar lead.1 lead.2 < 0x80 → leastScalar lead.1 lead.2 = byte.val ∧ lead.2 = [] := by
  decide +kernel

/-- Only the byte of a separator decodes to one. -/
theorem utf8Lead_slash {byte : UInt8} {bits : Nat} {ranges : List (UInt8 × UInt8)}
    {rest : List UInt8} (lead : utf8Lead byte = some (bits, ranges))
    (decoded : (utf8Continue bits ranges rest).1 = some 0x2F)
    : byte = 0x2F := by
  have least := leastScalar_le (Nat.le_refl bits) decoded
  obtain ⟨same, rfl⟩ :=
    utf8Lead_least byte.toFin (bits, ranges) lead (Nat.lt_of_le_of_lt least (by decide))
  obtain rfl : bits = 0x2F := Option.some.inj decoded
  exact UInt8.toNat_inj.mp same.symm

/-- Decoding only moves forward. -/
theorem utf8Continue_rest {start : Nat} {ranges : List (UInt8 × UInt8)} {bytes : List UInt8}
    : (utf8Continue start ranges bytes).2 ⊆ bytes := by
  induction ranges generalizing start bytes with
  | nil => exact List.Subset.refl _
  | cons range ranges ih =>
      cases bytes with
      | nil => exact List.Subset.refl _
      | cons byte rest =>
          simp only [utf8Continue]
          split
          · exact List.subset_cons_of_subset _ ih
          · exact List.Subset.refl _

/-- Decoding bytes without a separator gives none. By induction on the fuel. -/
theorem slash_not_mem_utf8Chunks {bytes : List UInt8} (none_ : 0x2F ∉ bytes)
    : some '/' ∉ utf8Chunks bytes := by
  unfold utf8Chunks
  generalize bytes.length = fuel
  induction fuel generalizing bytes with
  | zero => simp [utf8Chunks.go]
  | succ fuel ih =>
      cases bytes with
      | nil => simp [utf8Chunks.go]
      | cons byte rest =>
          obtain ⟨other, none_⟩ := not_or.mp (mt List.mem_cons.mpr none_)
          simp only [utf8Chunks.go]
          cases lead : utf8Lead byte with
          | none => simpa using ih none_
          | some first =>
              obtain ⟨bits, ranges⟩ := first
              refine mt List.mem_cons.mp (not_or.mpr ⟨?_, ih (fun inside => none_ ?_)⟩)
              · intro slash
                obtain ⟨scalar, decoded, code⟩ := Option.map_eq_some_iff.mp slash.symm
                rw [ofNat_eq_slash code] at decoded
                exact other (utf8Lead_slash lead decoded).symm
              · exact utf8Continue_rest inside

/-- A name that a directory can hold is decoded to a plain name. -/
theorem OsString.Proper.plainName {name : OsString} (proper : name.Proper)
    : PlainName name.toStringLossy := by
  cases name with
  | utf8 text => exact proper
  | raw bytes invalid =>
      have replaced : '\uFFFD' ∈ (OsString.raw bytes invalid).toStringLossy.toList := by
        rw [toStringLossy, String.toList_ofList]
        exact List.mem_map.mpr ⟨none, invalid, rfl⟩
      refine ⟨?_, ?_, ?_, ?_⟩
      · intro same
        rw [same] at replaced
        cases replaced
      · intro same
        rw [same] at replaced
        exact absurd replaced (by decide)
      · intro same
        rw [same] at replaced
        exact absurd replaced (by decide)
      · rw [toStringLossy, String.toList_ofList, List.mem_map]
        rintro ⟨piece, inside, decoded⟩
        cases piece with
        | none => exact absurd decoded (by decide)
        | some char =>
            obtain rfl : char = '/' := decoded
            exact slash_not_mem_utf8Chunks proper inside

-----------------------------------------------------------------------------------------
-- Decoded paths
-----------------------------------------------------------------------------------------

/-- Every name on the path can be held by a directory. -/
def ProperNames (rel : Path) : Prop := ∀ name ∈ rel, name.Proper

/-- The path as its key spells it. -/
def Path.lossy (rel : Path) : Path := rel.map (fun name => .utf8 name.toStringLossy)

@[simp] theorem relKey_lossy (rel : Path) : relKey rel.lossy = relKey rel := by
  rw [relKey, Path.lossy, List.map_map]
  rfl

@[simp] theorem Path.lossy_append (rel rest : Path)
    : (rel ++ rest).lossy = rel.lossy ++ rest.lossy := List.map_append

theorem ProperNames.append {rel rest : Path}
    : ProperNames (rel ++ rest) ↔ ProperNames rel ∧ ProperNames rest := by
  simp only [ProperNames, List.mem_append, or_imp, forall_and]

/-- Decoding names that directories hold gives plain names. -/
theorem ProperNames.lossy {rel : Path} (proper : ProperNames rel) : PlainNames rel.lossy := by
  intro name inside
  obtain ⟨raw, inRel, rfl⟩ := List.mem_map.mp inside
  exact ⟨_, rfl, (proper raw inRel).plainName⟩

theorem ProperNames.plain {rel : Path} (proper : ProperNames rel) (nonempty : rel ≠ [])
    : Plain rel.lossy :=
  ⟨by simpa [Path.lossy] using nonempty, proper.lossy⟩

theorem ProperNames.clean {rel : Path} (proper : ProperNames rel) : Clean rel :=
  fun name inside => (proper name inside).named

/-- Plain names are proper. -/
theorem PlainNames.proper {rel : Path} (names : PlainNames rel) : ProperNames rel := by
  intro name inside
  obtain ⟨text, rfl, plain⟩ := names name inside
  exact plain

end SyncGDrive
