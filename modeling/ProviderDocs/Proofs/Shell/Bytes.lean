import ProviderDocs.Shell.Command

/-!
# Bytes of a text

The bytes of a text are those of its characters, one after the other. Only a line feed is
written with the byte of a line feed, so the lines of a text are those of its bytes.
-/

namespace ProviderDocs.Shell.Bytes

theorem toList_loop_eq_drop (bytes : ByteArray) (index : Nat) (front : List UInt8) :
    ByteArray.toList.loop bytes index front = front.reverse ++ bytes.data.toList.drop index := by
  have hsize : bytes.data.toList.length = bytes.size := Array.length_toList
  induction hleft : bytes.size - index generalizing index front with
  | zero =>
    rw [ByteArray.toList.loop, if_neg (by omega), List.drop_eq_nil_of_le (by omega),
      List.append_nil]
  | succ left ih =>
    have hindex : index < bytes.data.toList.length := by omega
    have hget : bytes.get! index = bytes.data.toList[index] :=
      getElem!_pos bytes.data index (by simpa using hindex)
    rw [ByteArray.toList.loop, if_pos (by omega), ih (index + 1) _ (by omega), hget,
      List.drop_eq_getElem_cons hindex, List.reverse_cons, List.append_assoc,
      List.singleton_append]

theorem toList_eq_data (bytes : ByteArray) : bytes.toList = bytes.data.toList := by
  rw [ByteArray.toList, toList_loop_eq_drop, List.reverse_nil, List.nil_append, List.drop_zero]

/-- The bytes of a character. -/
def ofChar (c : Char) : Bytes := (String.utf8EncodeChar c).map fun byte ↦ Char.ofNat byte.toNat

theorem ofText_eq_flatMap (text : String) : ofText text = text.toList.flatMap ofChar := by
  rw [ofText, toList_eq_data, String.toUTF8_eq_toByteArray, ← String.utf8Encode_toList,
    List.utf8Encode, List.toList_data_toByteArray, List.map_flatMap]
  rfl

theorem ofText_append (front back : String) :
    ofText (front ++ back) = ofText front ++ ofText back := by
  simp only [ofText_eq_flatMap, String.toList_append, List.flatMap_append]

theorem toNat_ofNat_of_lt {code : Nat} (h : code < 256) : (Char.ofNat code).toNat = code := by
  have hvalid : code.isValidChar := .inl (by omega)
  rw [Char.ofNat, dif_pos hvalid]
  rfl

theorem eq_lineFeed_of_mem_ofChar {c : Char} (h : '\n' ∈ ofChar c) : c = '\n' := by
  obtain ⟨byte, hbyte, hfeed⟩ := List.mem_map.1 h
  have hten : byte.toNat = 10 := by
    rw [← toNat_ofNat_of_lt byte.toNat_lt, hfeed]
    rfl
  rw [String.utf8EncodeChar] at hbyte
  split at hbyte
  · rename_i hone
    rw [List.mem_singleton] at hbyte
    have hcode : c.toNat = 10 := by
      rw [hbyte, UInt8.toNat_ofNat'] at hten
      have : c.toNat ≤ 127 := hone
      have : c.val.toNat = c.toNat := rfl
      omega
    rw [← Char.ofNat_toNat c, hcode]
  · -- Every byte of a character that takes more than one is past 127.
    split at hbyte <;> (try split at hbyte) <;>
      simp only [List.mem_cons, List.not_mem_nil, or_false] at hbyte <;>
      rcases hbyte with rfl | rfl | rfl | rfl <;> simp only [UInt8.toNat_ofNat'] at hten <;> omega

theorem lineFeed_mem_ofText_iff {text : String} : '\n' ∈ ofText text ↔ '\n' ∈ text.toList := by
  rw [ofText_eq_flatMap, List.mem_flatMap]
  constructor
  · rintro ⟨c, hc, h⟩
    rwa [← eq_lineFeed_of_mem_ofChar h]
  · exact fun h ↦ ⟨'\n', h, by decide⟩

/-! ## Lines -/

/-- The last line of a text whose lines all end in a line feed. -/
def lastLine (text : Bytes) : Bytes := (text.splitOn '\n').dropLast.getLast?.getD []

theorem lastLine_append {line : Bytes} (h : '\n' ∉ line) (front : Bytes) :
    lastLine (front ++ '\n' :: (line ++ ['\n'])) = line := by
  have hlast : (line ++ ['\n']).splitOn '\n' = [line] ++ [[]] := by
    rw [List.splitOn_append_cons_self, List.splitOn_eq_singleton h]
    rfl
  rw [lastLine, List.splitOn_append_cons_self, hlast, ← List.append_assoc, List.dropLast_concat,
    List.getLast?_concat, Option.getD_some]

end ProviderDocs.Shell.Bytes
