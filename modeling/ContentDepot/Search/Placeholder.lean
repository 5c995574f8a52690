import ContentDepot.Json.Basic

/-!
# Reserved keys and the placeholder for absent values

A document of the index holds the hash and the content type of its content
under two reserved keys. A value that is null or the empty text may be indexed
as a placeholder, so that its absence can be searched for.
-/

namespace ContentDepot.Search

/-- The key of the content hash in a document. -/
def hashKey : String := "__hash"

/-- The key of the content type in a document. -/
def contentTypeKey : String := "__content_type"

/-- What is indexed in place of an absent value; it is in lower case. -/
def placeholder : String := "null"

/-- The value as it is indexed: null and the empty text become the placeholder
where this is enabled. -/
def fillAbsent (enabled : Bool) (value : Json) : Json :=
  match enabled, value with
  | true, .null => .str placeholder
  | true, .str "" => .str placeholder
  | _, v => v

end ContentDepot.Search
