import ContentDepot.Proofs.Exchange.Prefixes

/-!
# Identifiers as path segments

An identifier is put into a path as one segment, in which all but the unreserved
characters are escaped (`Percent.IsEscaped`). Whatever the identifier holds, slashes,
percent signs or what looks like an escape, the segment stands for it and for no
other text; only the two names for steps in a path have no segment of their own.

So the path of a document and the path of its update lead to the name of the index,
the word of the engine and the identifier (`MetadataIndex.segment_addresses`), both
as the client writes them and at the root of any host.
-/

namespace ContentDepot

open Text Text.DotSegments Address InMemory

/-! ## Escaped texts -/

namespace Text.Percent

/-- A text of unreserved characters and escapes, each a percent sign with two digits. -/
inductive IsEscaped : List Char → Prop where
  | nil : IsEscaped []
  | kept {c : Char} {cs : List Char} (hc : isUnreserved c = true) (h : IsEscaped cs) :
      IsEscaped (c :: cs)
  | escape {high low : Char} {cs : List Char} (hhigh : high ∈ "0123456789ABCDEF".toList)
      (hlow : low ∈ "0123456789ABCDEF".toList) (h : IsEscaped cs) :
      IsEscaped ('%' :: high :: low :: cs)

theorem upperDigit_mem : ∀ n < 16, Hex.upperDigit n ∈ "0123456789ABCDEF".toList := by decide

theorem IsEscaped.escapeByte (b : UInt8) {cs : List Char} (h : IsEscaped cs) :
    IsEscaped (escapeByte b ++ cs) := by
  have hb := b.toNat_lt
  exact .escape (upperDigit_mem _ (by omega)) (upperDigit_mem _ (Nat.mod_lt _ (by decide))) h

theorem IsEscaped.escapeChar (c : Char) {cs : List Char} (h : IsEscaped cs) :
    IsEscaped (escapeChar c ++ cs) := by
  unfold Percent.escapeChar
  induction Utf8.encodeChar c with
  | nil => exact h
  | cons b bs ih =>
    rw [List.flatMap_cons, List.append_assoc]
    exact ih.escapeByte b

theorem isEscaped_escapeUnless (cs : List Char) : IsEscaped (escapeUnless isUnreserved cs) := by
  induction cs with
  | nil => exact .nil
  | cons c cs ih =>
    rw [escapeUnless_cons]
    split
    · rename_i hc
      exact .kept hc ih
    · exact ih.escapeChar c

theorem isEscaped_segment (s : String) : IsEscaped (segment s).toList := by
  rw [segment, String.toList_ofList]
  exact isEscaped_escapeUnless s.toList

/-- The bytes that a segment stands for are the text. -/
theorem decode?_unescape_segment (s : String) :
    Utf8.decode? (unescape (segment s).toList) = some s.toList := by
  rw [segment, String.toList_ofList, unescape_escapeUnless_of_percent (by decide)]
  exact Utf8.decode?_encode s

/-- Different texts have different segments. -/
theorem segment_inj {s t : String} (h : segment s = segment t) : s = t := by
  rw [← decode_segment s, h, decode_segment]

end Text.Percent

/-! ## Paths as the client writes them -/

namespace Address

/-- What lies below a plain name leads there as it is written. -/
theorem segments_encodePath_reference {name : String} (hn : IsPlainName name)
    {segments : List (List Char)} (hs : ∀ s ∈ segments, IsClear s) :
    Engine.segments (String.ofList (Url.encodePath (reference name segments).toList)) =
      name :: meanings segments := by
  have hslash : '/' ∉ name.toList := fun h => hn.no_mark _ h (by decide)
  have hname : name.toList ≠ [] := fun h => hn.ne_empty (String.toList_eq_nil_iff.1 h)
  have hshown : shown ('/' :: name.toList) = [name.toList] := by
    rw [← List.nil_append ('/' :: name.toList), shown_append_slash, shown, shown,
      Percent.splitOn_of_not_mem hslash]
    simp [hname]
  have hmean : Percent.decode (String.ofList name.toList) = name := by
    rw [String.ofList_toList]
    exact Percent.decode_plain fun h => hn.no_mark _ h (by decide)
  rw [segments_encodePath, reference, String.toList_ofList, ← List.cons_append, shown_render hs,
    hshown, List.singleton_append, meanings, List.map_cons, hmean]
  rfl

/-- The path has these segments, as the client writes it and, if it fits into a URL, where it
leads from the root of a host. -/
structure HasSegments (path : String) (parts : List String) : Prop where
  written : Engine.segments (String.ofList (Url.encodePath path.toList)) = parts
  sent : ∀ a : Address, a.base.IsRoot →
    if fits path then
      ∃ url, a.target path = .ok url ∧ Engine.segments (String.ofList url.path) = parts
    else a.target path = .error .invalidAddress

/-- What lies under an identifier below a plain name has the name, the word and the identifier as
its segments. -/
theorem hasSegments_segment {name word id : String} (hn : IsPlainName name) (hw : IsWord word)
    (h0 : id ≠ "") (h1 : id ≠ ".") (h2 : id ≠ "..") :
    HasSegments (reference name [word.toList, (Percent.segment id).toList]) [name, word, id] where
  written := by
    rw [segments_encodePath_reference hn (isClear_word_segment hw ⟨h0, h1, h2⟩),
      meanings_segment hw]
  sent a ha := by
    have htarget := target_segment ha hn hw h0
    split at htarget
    · rename_i hfits
      obtain ⟨url, hurl⟩ := htarget
      refine (if_pos hfits).mpr ⟨url, hurl, ?_⟩
      rw [segments_of_plain ha hn (anchored_segment hw h0) hurl, foldl_segment hw h1 h2,
        meanings_segment hw]
    · rename_i hfits
      exact (if_neg hfits).mpr htarget

end Address

/-! ## Identifiers -/

namespace MetadataIndex

/-- The segment of an identifier consists of unreserved characters and escapes, its bytes are those
of the identifier, and no other text has that segment. Unless the identifier is empty or a step in
a path, the paths of the document and of its update below a plain name have just three segments:
the name, the word of the engine and the identifier. -/
theorem segment_addresses (id : String) :
    Percent.IsEscaped (segment (.str id)).toList ∧
    Utf8.decode? (Percent.unescape (segment (.str id)).toList) = some id.toList ∧
    (∀ other, segment (.str other) = segment (.str id) → other = id) ∧
    (id ≠ "" → id ≠ "." → id ≠ ".." → ∀ name, IsPlainName name →
      HasSegments (documentPath name (.str id)) [name, "_doc", id] ∧
      HasSegments (updatePath name (.str id)) [name, "_update", id]) := by
  refine ⟨Percent.isEscaped_segment id, Percent.decode?_unescape_segment id,
    fun _ h => Percent.segment_inj h, fun h0 h1 h2 name hn => ⟨?_, ?_⟩⟩
  · rw [documentPath_eq]
    exact hasSegments_segment hn isWord_doc h0 h1 h2
  · rw [updatePath_eq]
    exact hasSegments_segment hn isWord_update h0 h1 h2

/-- An identifier with a slash, with what looks like an escape and with other characters. -/
theorem segment_addresses_escaped :
    segment (.str "a/b%2Fü") = "a%2Fb%252F%C3%BC" ∧
    HasSegments (documentPath "docs" (.str "a/b%2Fü")) ["docs", "_doc", "a/b%2Fü"] ∧
    HasSegments (updatePath "docs" (.str "a/b%2Fü")) ["docs", "_update", "a/b%2Fü"] :=
  ⟨by decide, (segment_addresses "a/b%2Fü").2.2.2 (by decide) (by decide) (by decide) "docs"
    (by decide)⟩

end MetadataIndex

end ContentDepot
