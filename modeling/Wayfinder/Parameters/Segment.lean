/-
Parameter segments.

A whole parameter map is written as one path segment that people can read and edit,
`page=2;query=tag:red%20sky`: words `key=value` in the order of the keys with `;` between them, both
sides percent-coded. Entries with an empty key or an empty value are not written. Reading takes every
word with a non-empty key and a non-empty value; a segment with a word whose bytes are no text stands
for no parameters at all.

* `encode`, `decode`: writing and reading a segment.
* `decodeCaptures`: the parameters that the captures of a pattern stand for.
-/
import Wayfinder.Log
import Wayfinder.Parameters
import Wayfinder.Parameters.Percent

namespace Wayfinder

/-- The parts of a text between the separators; there is one more part than there are separators. -/
def splitAt (separator : Char) : List Char → List (List Char)
  | [] => [[]]
  | c :: rest =>
    if c = separator then [] :: splitAt separator rest
    else match splitAt separator rest with
      | [] => [[c]]
      | part :: parts => (c :: part) :: parts

namespace Segment

/-- An entry as it is written. -/
def encodeEntry (key value : String) : List Char :=
  Percent.encode key.toList ++ '=' :: Percent.encode value.toList

/-- A parameter map as a segment. -/
def encode (p : Parameters) : String :=
  let written := p.entries.filter (fun e => !e.1.isEmpty && !e.2.isEmpty)
  String.ofList ([';'].intercalate (written.map (fun e => encodeEntry e.1 e.2)))

/-- A prefix followed by the parameters as a segment: the usual form of a URL with parameters. -/
def url (start : String) (p : Parameters) : String := start ++ encode p

/-- The two sides of a word, split at its first `=`, if neither of them is empty. -/
def sides? (word : List Char) : Option (List Char × List Char) :=
  match word.span (· ≠ '=') with
  | (_, []) => none
  | (key, _ :: value) => if key.isEmpty || value.isEmpty then none else some (key, value)

/-- The entry that a pair of sides stands for, if their bytes are text. -/
def decodeSides? (sides : List Char × List Char) : Option (String × String) :=
  match Percent.decode? sides.1, Percent.decode? sides.2 with
  | some key, some value => some (key, value)
  | _, _ => none

/-- The entries of a segment in the order of its words, if the bytes of all of them are text. -/
def entries? (segment : String) : Option (List (String × String)) :=
  ((splitAt ';' segment.toList).filterMap sides?).mapM decodeSides?

/-- The parameters that a segment stands for, if the bytes of its entries are text; of several
entries with the same key the last one counts. -/
def decode? (segment : String) : Option Parameters :=
  (entries? segment).map Parameters.ofList

/-- The parameters that a segment stands for. One that cannot be read stands for none. -/
def decode (segment : String) : Parameters := (decode? segment).getD .empty

/-- What is reported when a segment is read: that it could not be. -/
def decodeLog (segment : String) : List LogRecord :=
  match decode? segment with
  | some _ => []
  | none => [.trace s!"Discarding undecodable parameter segment '{segment}'"]

/-- A capture as text; one whose bytes are no text is kept as it is. -/
def decodeCapture (raw : String) : String := (Percent.decode? raw.toList).getD raw

/-- The parameters that the captures of a pattern stand for: the capture `blob` is read as a segment,
each other one is a parameter of its own. The parameters of the segment win. -/
def decodeCaptures (captures : Parameters) (blob : String) : Parameters :=
  let named := (captures.entries.filter (·.1 ≠ blob)).map (fun e => (e.1, decodeCapture e.2))
  let expanded := ((captures.get? blob).map decode).getD .empty
  (Parameters.ofList named).merge expanded

/-- What is reported when captures are decoded. -/
def decodeCapturesLog (captures : Parameters) (blob : String) : List LogRecord :=
  ((captures.get? blob).map decodeLog).getD []

end Segment

end Wayfinder
