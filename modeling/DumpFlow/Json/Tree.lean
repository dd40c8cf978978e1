import DumpFlow.Json.Token

/-!
JSON documents as they are written: numbers as literals, members of an object in order, repeated
keys and all. What a document means is decided when it is decoded.
-/

namespace DumpFlow.Json

inductive Tree where
  | null
  | boolean (b : Bool)
  | number (l : Literal)
  | text (content : Option String)
  | array (items : List Tree)
  | object (members : List (Option String × Tree))
  deriving Inhabited

/-- An array or object that is open; what it holds so far is listed last first. -/
inductive Frame where
  | array (items : List Tree)
  | object (members : List (Option String × Tree))
  /-- An object in which the member named `key` has no value yet. -/
  | member (key : Option String) (members : List (Option String × Tree))

/-- What may come next. -/
inductive Awaited where
  /-- A value; an array that was just opened may also close. -/
  | value (first : Bool)
  /-- A key; an object that was just opened may also close. -/
  | key (first : Bool)
  | colon (key : Option String)
  /-- A comma, or the close of the innermost frame. -/
  | more
  /-- Nothing: the document is complete. -/
  | nothing (document : Tree)

structure Reader where
  frames : List Frame
  awaited : Awaited

namespace Reader

def start : Reader := ⟨[], .value false⟩

/-- A complete value goes into the innermost frame. -/
def put? (frames : List Frame) (t : Tree) : Option Reader :=
  match frames with
  | [] => some ⟨[], .nothing t⟩
  | .array items :: outer => some ⟨.array (t :: items) :: outer, .more⟩
  | .member key members :: outer => some ⟨.object ((key, t) :: members) :: outer, .more⟩
  | .object _ :: _ => none

def close? (frames : List Frame) (token : Token) : Option Reader :=
  match frames, token with
  | .array items :: outer, .arrayClose => put? outer (.array items.reverse)
  | .object members :: outer, .objectClose => put? outer (.object members.reverse)
  | _, _ => none

def value? (frames : List Frame) (first : Bool) (token : Token) : Option Reader :=
  match token with
  | .null => put? frames .null
  | .boolean b => put? frames (.boolean b)
  | .number l => put? frames (.number l)
  | .text content => put? frames (.text content)
  | .arrayOpen => some ⟨.array [] :: frames, .value true⟩
  | .objectOpen => some ⟨.object [] :: frames, .key true⟩
  | .arrayClose => if first then close? frames .arrayClose else none
  | _ => none

def step? (r : Reader) (token : Token) : Option Reader :=
  match r.awaited with
  | .value first => value? r.frames first token
  | .key first =>
    match token with
    | .text key => some ⟨r.frames, .colon key⟩
    | .objectClose => if first then close? r.frames .objectClose else none
    | _ => none
  | .colon key =>
    match r.frames, token with
    | .object members :: outer, .colon => some ⟨.member key members :: outer, .value false⟩
    | _, _ => none
  | .more =>
    match r.frames, token with
    | .array _ :: _, .comma => some ⟨r.frames, .value false⟩
    | .object _ :: _, .comma => some ⟨r.frames, .key false⟩
    | frames, close => close? frames close
  | .nothing _ => none

def document? (r : Reader) : Option Tree :=
  match r.awaited with
  | .nothing t => some t
  | _ => none

end Reader

/-- The document that `text` is. -/
def Tree.parse? (text : String) : Option Tree := do
  let tokens ← tokens? text.toList
  let reader ← tokens.foldlM Reader.step? Reader.start
  reader.document?

end DumpFlow.Json
