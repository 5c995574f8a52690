import ContentDepot.Api.HeaderValue
import ContentDepot.Exchange.Address
import ContentDepot.Text.Utf8

/-!
# Forms

A form is a sequence of parts with names: fields, which are texts, and files. It
is written either as parts between delimiter lines, each with headers of its own,
or as a list of escaped names and values. The end of a text may come before that
of its form; then the parts that are complete count.

* `Form.ofDelimited`: the parts that delimiter lines separate.
* `Form.ofList`: the fields of a list.
* `Form.receive`: the parts of a form that is not too large.
-/

namespace ContentDepot.Api

/-- A part of a form as it is sent. -/
structure SentPart where
  name : String
  isFile : Bool
  content : Bytes
  deriving Repr, DecidableEq

/-- A part of a form. -/
inductive Part where
  | field (name text : String)
  | file (name : String) (content : Bytes)
  deriving Repr, DecidableEq

/-- The name of a part. -/
def Part.name : Part → String
  | .field name _ | .file name _ => name

/-- Why a body is not read as a form. -/
inductive FormDefect where
  | noDelimiter
  | malformed
  | namelessPart
  | tooManyFiles
  | tooManyFields
  | oversizedField
  deriving Repr, DecidableEq

/-- What is said of a body that cannot be read. -/
def unreadableBody : String := "There was an error parsing the body"

/-- A defect in one sentence. -/
def FormDefect.sentence : FormDefect → String
  | .noDelimiter => "Missing boundary in multipart."
  | .malformed => unreadableBody
  | .namelessPart => "The Content-Disposition header field \"name\" must be provided."
  | .tooManyFiles => "Too many files. Maximum number of files is 1000."
  | .tooManyFields => "Too many fields. Maximum number of fields is 1000."
  | .oversizedField => "Part exceeded maximum size of 1024KB."

namespace Form

/-- The bytes as characters, one for each. -/
def charsOf (content : Bytes) : List Char := content.map fun b => Char.ofNat b.toNat

/-- The bytes that such characters stand for. -/
def bytesOf (cs : List Char) : Bytes := cs.map fun c => UInt8.ofNat c.toNat

/-! ## Headers of a part -/

/-- Whether the character may stand in the name of a header. -/
def isTokenChar (c : Char) : Bool := c.isAlphanum || "!#$%&'*+-.^_`|~".toList.contains c

/-- What is at the front of the headers of a part. -/
inductive HeaderLine where
  | header (name value : List Char) (rest : List Char)
  /-- The empty line that ends the headers. -/
  | blank (rest : List Char)
  | unfinished
  | malformed
  deriving Repr, DecidableEq

/-- The value of a header up to the end of its line. -/
def headerValue (name cs : List Char) : HeaderLine :=
  match cs.dropWhile (· != '\r') with
  | [] | [_] => .unfinished
  | _ :: c :: rest => if c == '\n' then .header name (cs.takeWhile (· != '\r')) rest else .malformed

/-- A line that begins with the name of a header. -/
def namedLine (cs : List Char) : HeaderLine :=
  match cs.dropWhile isTokenChar with
  | [] => .unfinished
  | c :: rest =>
    if c == ':' && rest.length + 1 ≠ cs.length then
      headerValue (cs.takeWhile isTokenChar) (rest.dropWhile (· == ' '))
    else .malformed

/-- The line at the front of a text. -/
def headerLine (cs : List Char) : HeaderLine :=
  match cs with
  | [] | ['\r'] => .unfinished
  | '\r' :: c :: rest => if c == '\n' then .blank rest else .malformed
  | cs => namedLine cs

theorem length_dropWhile_le (p : Char → Bool) (cs : List Char) :
    (cs.dropWhile p).length ≤ cs.length := (List.dropWhile_suffix p).length_le

/-- What follows a header is shorter than the text before it. -/
theorem length_of_headerValue {name cs n v rest : List Char}
    (h : headerValue name cs = .header n v rest) : rest.length < cs.length := by
  have hle := length_dropWhile_le (· != '\r') cs
  unfold headerValue at h
  split at h
  · cases h
  · cases h
  · rename_i hd
    split at h
    · cases h
      rw [hd] at hle
      simp only [List.length_cons] at hle
      omega
    · cases h

/-- What follows a header is shorter than the line that begins with its name. -/
theorem length_of_namedLine {cs n v rest : List Char}
    (h : namedLine cs = .header n v rest) : rest.length < cs.length := by
  have hle := length_dropWhile_le isTokenChar cs
  unfold namedLine at h
  split at h
  · cases h
  · rename_i c tail hd
    split at h
    · have hv := length_of_headerValue h
      have := length_dropWhile_le (· == ' ') tail
      rw [hd] at hle
      simp only [List.length_cons] at hle
      omega
    · cases h

/-- What follows a header is shorter than the text that begins with it. -/
theorem length_of_headerLine {cs n v rest : List Char}
    (h : headerLine cs = .header n v rest) : rest.length < cs.length := by
  unfold headerLine at h
  split at h
  · cases h
  · cases h
  · split at h <;> cases h
  · exact length_of_namedLine h

/-- What follows an empty line is shorter than the text that begins with it. -/
theorem length_of_blank {cs rest : List Char} (h : headerLine cs = .blank rest) :
    rest.length < cs.length := by
  unfold headerLine at h
  split at h
  · cases h
  · cases h
  · split at h
    · cases h
      simp only [List.length_cons]
      omega
    · cases h
  · unfold namedLine headerValue at h
    split at h
    · cases h
    · split at h
      · split at h
        · cases h
        · cases h
        · split at h <;> cases h
      · cases h

/-- The headers at the front of a text, up to the empty line, and what follows it; nothing if
the text ends before. -/
def headers (cs : List Char) :
    Except FormDefect (Option (List (List Char × List Char) × List Char)) :=
  match _ : headerLine cs with
  | .unfinished => .ok none
  | .malformed => .error .malformed
  | .blank rest => .ok (some ([], rest))
  | .header name value rest =>
    (headers rest).map fun found => found.map fun (hs, rest) => ((name, value) :: hs, rest)
termination_by cs.length
decreasing_by exact length_of_headerLine ‹_›

/-- The name of a part, and whether it is a file, as its headers say. -/
def describe (hs : List (List Char × List Char)) : Except FormDefect (String × Bool) :=
  let dispositions := (hs.filter fun h => headerName (String.ofList h.1) == "content-disposition")
  let value := HeaderValue.read (String.ofList ((dispositions.map Prod.snd).getLast?.getD []))
  match value.parameter? "name" with
  | none => .error .namelessPart
  | some name => .ok (name, (value.parameter? "filename").isSome)

/-! ## Parts between delimiter lines -/

/-- What follows a delimiter line at the front of a text. The flag says whether it is the last
one, which ends with two hyphens. -/
def afterDelimiter? (delimiter cs : List Char) : Option (Bool × List Char) :=
  if delimiter.isPrefixOf cs then
    match cs.drop delimiter.length with
    | '\r' :: '\n' :: rest => some (false, rest)
    | '-' :: '-' :: rest => some (true, rest)
    | _ => none
  else none

/-- A text cut at its first delimiter line. -/
structure Cut where
  before : List Char
  /-- Whether the delimiter line is the last one. -/
  isLast : Bool
  after : List Char
  deriving Repr, DecidableEq

/-- The text cut at its first delimiter line, if there is one. What has been read of it comes
first, its last character in front. -/
def cut? (delimiter read : List Char) : List Char → Option Cut
  | [] => none
  | c :: cs =>
    match afterDelimiter? delimiter (c :: cs) with
    | some (isLast, rest) => some ⟨read.reverse, isLast, rest⟩
    | none => cut? delimiter (c :: read) cs

/-- What follows a delimiter line is not longer than the text that begins with it. -/
theorem length_of_afterDelimiter? {delimiter cs rest : List Char} {isLast : Bool}
    (h : afterDelimiter? delimiter cs = some (isLast, rest)) : rest.length < cs.length := by
  have hle : (cs.drop delimiter.length).length ≤ cs.length := by
    rw [List.length_drop]
    omega
  unfold afterDelimiter? at h
  split at h
  · split at h
    all_goals first
      | (rename_i hd; rw [hd] at hle; cases h; simp only [List.length_cons] at hle; omega)
      | cases h
  · cases h

/-- What follows a cut is shorter than the text. -/
theorem length_of_cut? {delimiter read cs : List Char} {c : Cut}
    (h : cut? delimiter read cs = some c) : c.after.length < cs.length := by
  induction cs generalizing read with
  | nil => cases h
  | cons d cs ih =>
    unfold cut? at h
    split at h
    · rename_i hd
      cases h
      exact length_of_afterDelimiter? hd
    · have := ih h
      simp only [List.length_cons]
      omega

/-- The headers of a text are followed by no more than the text. -/
theorem length_of_headers {cs rest : List Char} {hs : List (List Char × List Char)}
    (h : headers cs = .ok (some (hs, rest))) : rest.length ≤ cs.length := by
  fun_induction headers cs generalizing hs rest with
  | case1 => cases h
  | case2 => cases h
  | case3 cs tail hl =>
    cases h
    exact Nat.le_of_lt (length_of_blank hl)
  | case4 cs name value tail hl ih =>
    have hlt := length_of_headerLine hl
    match hr : headers tail with
    | .error _ => rw [hr] at h; cases h
    | .ok none => rw [hr] at h; cases h
    | .ok (some (found, after)) =>
      have hle := ih hr
      rw [hr] at h
      cases h
      omega

/-- The parts of a text that follows a delimiter line. -/
def parts (delimiter cs : List Char) : Except FormDefect (List SentPart) := do
  match _ : headers cs with
  | .error defect => throw defect
  | .ok none => return []
  | .ok (some (hs, rest)) =>
    let (name, isFile) ← describe hs
    match _ : cut? delimiter [] rest with
    | none => return []
    | some c =>
      let part := ⟨name, isFile, bytesOf c.before⟩
      if c.isLast then return [part] else return part :: (← parts delimiter c.after)
termination_by cs.length
decreasing_by exact Nat.lt_of_lt_of_le (length_of_cut? ‹_›) (length_of_headers ‹_›)

/-- The parts of a form with delimiter lines, which a boundary tells from other lines. -/
def ofDelimited (boundary : String) (content : Bytes) : Except FormDefect (List SentPart) :=
  let line := '-' :: '-' :: boundary.toList
  let cs := (charsOf content).dropWhile fun c => c == '\r' || c == '\n'
  if cs.isPrefixOf line then .ok []
  else if !line.isPrefixOf cs then .error .malformed
  else match cs.drop line.length with
    | '\r' :: '\n' :: rest => parts ('\r' :: '\n' :: line) rest
    | ['\r'] | ['-'] | '-' :: '-' :: _ => .ok []
    | _ => .error .malformed

/-- The greatest count of files, and of fields, in a form. -/
def maxParts : Nat := 1000

/-- The greatest size of a field in bytes. -/
def maxFieldSize : Nat := 1024 * 1024

/-- Refuses parts that go beyond the bounds of a form, given how many files and fields precede. -/
def bounded (files fields : Nat) : List SentPart → Except FormDefect Unit
  | [] => .ok ()
  | p :: ps =>
    if p.isFile then
      if files < maxParts then bounded (files + 1) fields ps else .error .tooManyFiles
    else if maxParts ≤ fields then .error .tooManyFields
    else if maxFieldSize < p.content.length then .error .oversizedField
    else bounded files (fields + 1) ps

/-- The text of a field: UTF-8 where that is asked for, and otherwise, and where the bytes are not
that, one character for each byte. -/
def textOf (inUtf8 : Bool) (content : Bytes) : String :=
  match if inUtf8 then Text.Utf8.decode? content else none with
  | some cs => String.ofList cs
  | none => String.ofList (charsOf content)

/-- A part as it is read. -/
def partOf (inUtf8 : Bool) (p : SentPart) : Part :=
  if p.isFile then .file p.name p.content else .field p.name (textOf inUtf8 p.content)

/-- The parts of a form that is not too large. -/
def receive (inUtf8 : Bool) (sent : List SentPart) : Except FormDefect (List Part) :=
  (bounded 0 0 sent).map fun _ => sent.map (partOf inUtf8)

/-! ## Lists of names and values -/

/-- The items of a list. Ampersands separate them, and semicolons after the last ampersand; the
last one counts only if it has a value. -/
def items (cs : List Char) : List (List Char) :=
  let sections := cs.splitOn '&'
  let tail := (sections.getLast?.getD []).splitOn ';'
  let last := (tail.getLast?.getD []).contains '='
  let found := sections.dropLast.map (·.dropWhile (· == ';')) ++
    (if last then tail else tail.dropLast)
  found.filter (!·.isEmpty)

/-- The fields of a list. -/
def ofList (content : Bytes) : List Part :=
  (items (charsOf content)).map fun item =>
    .field (decodeComponent (item.takeWhile (· != '=')))
      (decodeComponent ((item.dropWhile (· != '=')).drop 1))

end Form

end ContentDepot.Api
