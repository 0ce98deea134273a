import CallPolicy.Proofs.Utf8
import CallPolicy.Reference
import Mathlib.Data.List.TakeWhile

/-!
# CallPolicy.Proofs.FileUris

The URI of a path stands for the path.

* `octets_escape`: the escapes of octets are read as these octets.
* `uriPath_escape`: none of them is taken for a part of the URI's own syntax.
* `path_ofPath`: a path from the root comes back from its URI as it was, whatever directory the URI
  is seen from.
-/

namespace CallPolicy
namespace Reference

/-! ## Escapes -/

/-- What holds of the numbers below 256 holds of every octet. -/
theorem forall_octet_iff {P : UInt8 → Prop} :
    (∀ o, P o) ↔ ∀ n < 256, P (Text.Utf8.octet n) := by
  refine ⟨fun h n _ => h _, fun h o => ?_⟩
  have ho := h o.toNat o.toNat_lt
  rwa [Text.Utf8.octet, UInt8.ofNat_toNat] at ho

theorem hexValue?_upperHex {n : Nat} (h : n < 16) : hexValue? (upperHex n) = some n := by
  have hall : ∀ n < 16, hexValue? (upperHex n) = some n := by decide
  exact hall n h

theorem escaped?_upperHex (o : UInt8) :
    escaped? (upperHex (o.toNat / 16)) (upperHex (o.toNat % 16)) = some o := by
  have hlt := o.toNat_lt
  rw [escaped?, hexValue?_upperHex (by omega), hexValue?_upperHex (by omega)]
  simp only [Nat.div_add_mod, UInt8.ofNat_toNat]

/-- A plain octet is a character of its own, and no sign of an escape. -/
theorem plain_facts : ∀ o, isPlain o = true →
    Text.Utf8.encodeChar (Char.ofNat o.toNat) = [o] ∧ Char.ofNat o.toNat ≠ '%' := by
  rw [forall_octet_iff]
  decide +kernel

theorem octets_cons {c : Char} (hc : c ≠ '%') (rest : List Char) :
    octets (c :: rest) = Text.Utf8.encodeChar c ++ octets rest := by
  rw [octets]
  intro a b rest' heq
  exact absurd heq hc

theorem octets_escapeOctet (o : UInt8) (rest : List Char) :
    octets (escapeOctet o ++ rest) = o :: octets rest := by
  rw [escapeOctet]
  split
  · rename_i h
    obtain ⟨hencoded, hsign⟩ := plain_facts o h
    rw [List.singleton_append, octets_cons hsign, hencoded, List.singleton_append]
  · simp only [List.cons_append, List.nil_append]
    rw [octets, escaped?_upperHex]

theorem octets_escape (os : List UInt8) : octets (os.flatMap escapeOctet) = os := by
  induction os with
  | nil => rfl
  | cons o os ih => rw [List.flatMap_cons, octets_escapeOctet, ih]

theorem unescape_escape (cs : List Char) : unescape (escape cs) = cs := by
  rw [unescape, escape, octets_escape, Text.Utf8.decodeLossy_encode]

/-! ## The syntax of URIs -/

/-- A character that has no part in the syntax of a URI behind its authority. -/
def IsPathChar (c : Char) : Prop := isDropped c = false ∧ c ≠ '#' ∧ c ≠ '?'

instance (c : Char) : Decidable (IsPathChar c) := inferInstanceAs (Decidable (_ ∧ _))

theorem isPathChar_upperHex {n : Nat} (h : n < 16) : IsPathChar (upperHex n) := by
  have hall : ∀ n < 16, IsPathChar (upperHex n) := by decide
  exact hall n h

theorem isPathChar_of_isPlain : ∀ o, isPlain o = true → IsPathChar (Char.ofNat o.toNat) := by
  rw [forall_octet_iff]
  decide +kernel

theorem isPathChar_of_mem_escape {cs : List Char} {c : Char} (h : c ∈ escape cs) :
    IsPathChar c := by
  obtain ⟨o, -, hc⟩ := List.mem_flatMap.mp h
  have hlt := o.toNat_lt
  rw [escapeOctet] at hc
  split at hc
  · rename_i hplain
    rw [List.mem_singleton.mp hc]
    exact isPathChar_of_isPlain o hplain
  · simp only [List.mem_cons, List.not_mem_nil, or_false] at hc
    rcases hc with rfl | rfl | rfl
    · decide
    · exact isPathChar_upperHex (by omega)
    · exact isPathChar_upperHex (by omega)

theorem escape_slash (cs : List Char) : escape ('/' :: cs) = '/' :: escape cs := by
  have hslash : (Text.Utf8.encodeChar '/').flatMap escapeOctet = ['/'] := by decide
  rw [escape, Text.Utf8.encode, List.flatMap_cons, List.flatMap_append, hslash]
  rfl

/-- An empty authority, and all the rest is the path. -/
theorem uriPath_escape (cs : List Char) :
    uriPath ('/' :: '/' :: escape ('/' :: cs)) = .ok ('/' :: cs) := by
  have hkept : ('/' :: '/' :: escape ('/' :: cs)).filter (!isDropped ·) =
      '/' :: '/' :: escape ('/' :: cs) := by
    rw [List.filter_eq_self]
    intro c hc
    rcases List.mem_cons.mp hc with rfl | hc
    · decide
    rcases List.mem_cons.mp hc with rfl | hc
    · decide
    · rw [(isPathChar_of_mem_escape hc).1]
      rfl
  have hpath : (escape ('/' :: cs)).takeWhile (fun c => c != '#' && c != '?') =
      escape ('/' :: cs) := by
    rw [List.takeWhile_eq_self_iff]
    intro c hc
    obtain ⟨-, hfragment, hquery⟩ := isPathChar_of_mem_escape hc
    simp [hfragment, hquery]
  have hauthority : (escape ('/' :: cs)).takeWhile (!endsAuthority ·) = [] := by
    rw [escape_slash]
    rfl
  have hsplit : split ('/' :: '/' :: escape ('/' :: cs)) = ([], escape ('/' :: cs)) := by
    simp only [split, hauthority, List.length_nil, List.drop_zero, hpath]
  have hvalid : isAuthority [] = true := by decide
  simp only [uriPath, hkept, hsplit, hvalid, if_true, List.nil_append, unescape_escape]

/-! ## Paths -/

theorem toList_ofPath (p : String) : (ofPath p).toList = "file://".toList ++ escape p.toList := by
  rw [ofPath, String.toList_append, String.toList_ofList (l := escape p.toList)]

theorem startsWith_ofPath (p : String) : (ofPath p).startsWith scheme = true := by
  rw [String.startsWith_string_iff, toList_ofPath]
  exact ⟨'/' :: '/' :: escape p.toList, rfl⟩

theorem join_of_isAbsolute {path : String} (h : Path.isAbsolute path = true) (base : String) :
    Path.join base path = path := by
  rw [Path.join, if_pos h]

/-- **The URI of a path from the root stands for the path.** Every character of the path comes back,
those among them that have a meaning in URIs; and the directory that a reference is seen from makes
no difference. -/
theorem path_ofPath {p : String} (h : p.startsWith "/" = true) (base : Option String) :
    path (ofPath p) base = .ok p := by
  obtain ⟨cs, hcs⟩ := String.startsWith_string_iff.mp h
  have htext : p.toList = '/' :: cs := hcs.symm
  have hrest : (ofPath p).toList.drop scheme.length = '/' :: '/' :: escape ('/' :: cs) := by
    rw [toList_ofPath, htext]
    rfl
  have hread : String.ofList <$> uriPath ((ofPath p).toList.drop scheme.length) =
      (.ok p : Except Config.Defect String) := by
    rw [hrest, uriPath_escape, ← htext]
    exact congrArg Except.ok String.ofList_toList
  rw [path, if_pos (startsWith_ofPath p), hread]
  cases base with
  | none => rfl
  | some b =>
    by_cases hb : b = ""
    · simp only [if_pos hb]
      rfl
    · simp only [if_neg hb]
      exact congrArg Except.ok (join_of_isAbsolute h b)

/-- Two slashes in front are no authority, and an escape in the path's own text is no escape. -/
theorem path_ofPath_two_slashes :
    "//a;b/50%41 ？#é😀[x].xml".startsWith "/" = true ∧
      path (ofPath "//a;b/50%41 ？#é😀[x].xml") (some "conf") = .ok "//a;b/50%41 ？#é😀[x].xml" := by
  have h : "//a;b/50%41 ？#é😀[x].xml".startsWith "/" = true :=
    String.startsWith_string_iff.mpr ⟨"/a;b/50%41 ？#é😀[x].xml".toList, rfl⟩
  exact ⟨h, path_ofPath h _⟩

example : ofPath "/50%/é#~.xml" = "file:///50%25/%C3%A9%23~.xml" := by decide +kernel

end Reference
end CallPolicy
