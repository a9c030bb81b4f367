import ChainProvision.Json.Token

/-!
# Reading JSON

The tokens of a text are read with a stack of the arrays and objects that are still open.  Where the
text stops being JSON, the open ones are closed around a `broken` value, under a `broken` key if a key is
due there, so that everything before that place is kept.

## Main definitions

* `Json.parse`: a text as a `Document`, a value and whether nothing else follows it;
* `Json.parse?`: the value of a text that is JSON throughout.
-/

namespace ChainProvision.Json

/-- An array or object that is still open; its finished parts, last first. -/
inductive Frame where
  | items (done : List Json)
  | members (done : List (Key × Json)) (key : Key)

/-- The frame closed after a value. -/
def Frame.close : Frame → Json → Json
  | .items done, v => .array (v :: done).reverse
  | .members done key, v => .object ((key, v) :: done).reverse

/-- The outermost value when the innermost open place holds `v` and the text breaks off. -/
def cut : List Frame → Json → Json
  | [], v => v
  | frame :: frames, v => cut frames (frame.close v)

/-- The member that stands where the text stops being JSON before a key. -/
def brokenMember : Key × Json := (.broken, .broken)

/-- The frame with one more finished part, broken off before the next. -/
def Frame.breakAfter : Frame → Json → Json
  | .items done, v => .array (.broken :: v :: done).reverse
  | .members done key, v => .object (brokenMember :: (key, v) :: done).reverse

/-- A value read from a text, and whether nothing but space follows it. -/
structure Document where
  value : Json
  isComplete : Bool

mutual

/-- Read a value where one must stand. -/
def readValue : List Frame → List Token → Document
  | frames, .null :: ts => resume frames .null ts
  | frames, .bool b :: ts => resume frames (.bool b) ts
  | frames, .number n :: ts => resume frames (.number n) ts
  | frames, .string s :: ts => resume frames (.string s) ts
  | frames, .garbled :: ts => resume frames .garbled ts
  | frames, .beginArray :: .endArray :: ts => resume frames (.array []) ts
  | frames, .beginArray :: ts => readValue (.items [] :: frames) ts
  | frames, .beginObject :: .endObject :: ts => resume frames (.object []) ts
  | frames, .beginObject :: .string key :: .colon :: ts => readValue (.members [] (.name key) :: frames) ts
  | frames, .beginObject :: .garbled :: .colon :: ts => readValue (.members [] .garbled :: frames) ts
  | frames, .beginObject :: .string key :: _ => ⟨cut frames (.object [(.name key, .broken)]), false⟩
  | frames, .beginObject :: _ => ⟨cut frames (.object [brokenMember]), false⟩
  | frames, _ => ⟨cut frames .broken, false⟩

/-- Go on after a value. -/
def resume : List Frame → Json → List Token → Document
  | [], v, ts => ⟨v, ts.isEmpty⟩
  | .items done :: frames, v, .comma :: ts => readValue (.items (v :: done) :: frames) ts
  | .items done :: frames, v, .endArray :: ts => resume frames (.array (v :: done).reverse) ts
  | .members done key :: frames, v, .comma :: .string next :: .colon :: ts =>
    readValue (.members ((key, v) :: done) (.name next) :: frames) ts
  | .members done key :: frames, v, .comma :: .garbled :: .colon :: ts =>
    readValue (.members ((key, v) :: done) .garbled :: frames) ts
  | .members done key :: frames, v, .comma :: .string next :: _ =>
    ⟨cut frames (.object ((.name next, .broken) :: (key, v) :: done).reverse), false⟩
  | .members done key :: frames, v, .endObject :: ts =>
    resume frames (.object ((key, v) :: done).reverse) ts
  | frame :: frames, v, _ => ⟨cut frames (frame.breakAfter v), false⟩

end

/-- A text as a document. -/
def parse (s : String) : Document := readValue [] (tokens s.toList)

/-- The value of a text that is JSON throughout. -/
def parse? (s : String) : Option Json :=
  let d := parse s
  if d.isComplete && d.value.isWhole then some d.value else none

end ChainProvision.Json
