import DumpFlow.Json.Tree
import DumpFlow.Proofs.Json.Text

/-!
Written values are read back as documents: the scanner finds the tokens of the document in the
text, and the reader builds the document from its tokens, whatever it contains.
-/

namespace DumpFlow.Json

/-! ### The tokens of a document -/

mutual

def Tree.tokens : Tree → List Token
  | .null => [.null]
  | .boolean b => [.boolean b]
  | .number l => [.number l]
  | .text content => [.text content]
  | .array items => .arrayOpen :: (itemTokens items ++ [.arrayClose])
  | .object members => .objectOpen :: (memberTokens members ++ [.objectClose])

def itemTokens : List Tree → List Token
  | [] => []
  | [t] => t.tokens
  | t :: u :: rest => t.tokens ++ .comma :: itemTokens (u :: rest)

def memberTokens : List (Option String × Tree) → List Token
  | [] => []
  | [(k, t)] => .text k :: .colon :: t.tokens
  | (k, t) :: m :: rest => .text k :: .colon :: (t.tokens ++ .comma :: memberTokens (m :: rest))

end

namespace Reader

/-- The tokens read one after the other. -/
def read? (r : Reader) (tokens : List Token) : Option Reader :=
  tokens.foldlM step? r

@[simp]
theorem read?_nil (r : Reader) : r.read? [] = some r :=
  rfl

@[simp]
theorem read?_cons (r : Reader) (token : Token) (rest : List Token) :
    r.read? (token :: rest) = (r.step? token).bind (·.read? rest) :=
  rfl

@[simp]
theorem read?_append (r : Reader) (front back : List Token) :
    r.read? (front ++ back) = (r.read? front).bind (·.read? back) :=
  List.foldlM_append

variable {frames : List Frame}

mutual

/-- A document is put where a value is awaited. -/
theorem read?_tokens : ∀ (t : Tree) (frames : List Frame) (first : Bool),
    read? ⟨frames, .value first⟩ t.tokens = put? frames t
  | .null, _, _ => by simp [Tree.tokens, step?, value?]
  | .boolean b, _, _ => by simp [Tree.tokens, step?, value?]
  | .number l, _, _ => by simp [Tree.tokens, step?, value?]
  | .text content, _, _ => by simp [Tree.tokens, step?, value?]
  | .array items, frames, first => by
      have opened := read?_items items frames true []
      cases items with
      | nil => simp [Tree.tokens, itemTokens, step?, value?, close?]
      | cons t rest => simp [Tree.tokens, step?, value?, close?, opened]
  | .object members, frames, first => by
      have opened := read?_members members frames true []
      cases members with
      | nil => simp [Tree.tokens, memberTokens, step?, value?, close?]
      | cons m rest => simp [Tree.tokens, step?, value?, close?, opened]

/-- Items are put behind those that are there, and more may come. -/
theorem read?_items : ∀ (items : List Tree) (frames : List Frame) (first : Bool)
    (past : List Tree), items ≠ [] →
      read? ⟨.array past :: frames, .value first⟩ (itemTokens items) =
        some ⟨.array (items.reverse ++ past) :: frames, .more⟩
  | [], _, _, _, some_items => absurd rfl some_items
  | [t], frames, first, past, _ => by
      have item := read?_tokens t (.array past :: frames) first
      simp [itemTokens, item, put?]
  | t :: u :: rest, frames, first, past, _ => by
      have item := read?_tokens t (.array past :: frames) first
      have items := read?_items (u :: rest) frames false (t :: past) nofun
      simp [itemTokens, item, put?, step?, items]

theorem read?_members : ∀ (members : List (Option String × Tree)) (frames : List Frame)
    (first : Bool) (past : List (Option String × Tree)), members ≠ [] →
      read? ⟨.object past :: frames, .key first⟩ (memberTokens members) =
        some ⟨.object (members.reverse ++ past) :: frames, .more⟩
  | [], _, _, _, some_members => absurd rfl some_members
  | [(k, t)], frames, first, past, _ => by
      have value := read?_tokens t (.member k past :: frames) false
      simp [memberTokens, step?, value, put?]
  | (k, t) :: m :: rest, frames, first, past, _ => by
      have value := read?_tokens t (.member k past :: frames) false
      have members := read?_members (m :: rest) frames false ((k, t) :: past) nofun
      simp [memberTokens, step?, value, put?, members]

end

end Reader

/-! ### The document of a value -/

mutual

/-- The document that is written for a value. -/
def Value.tree : Value → Tree
  | .null => .null
  | .boolean b => .boolean b
  | .number n => .number n.literal
  | .text s => .text (some s)
  | .array items => .array (itemTrees items)
  | .object members => .object (memberTrees members)

def itemTrees : List Value → List Tree
  | [] => []
  | v :: rest => v.tree :: itemTrees rest

def memberTrees : List (String × Value) → List (Option String × Tree)
  | [] => []
  | (k, v) :: rest => (some k, v.tree) :: memberTrees rest

end

mutual

/-- All numbers in a value can be read back from what is written for them. -/
def Value.Legible : Value → Prop
  | .null | .boolean _ | .text _ => True
  | .number n => n.Legible
  | .array items => LegibleItems items
  | .object members => LegibleMembers members

def LegibleItems : List Value → Prop
  | [] => True
  | v :: rest => v.Legible ∧ LegibleItems rest

def LegibleMembers : List (String × Value) → Prop
  | [] => True
  | (_, v) :: rest => v.Legible ∧ LegibleMembers rest

end

theorem itemTrees_eq (items : List Value) : itemTrees items = items.map Value.tree := by
  induction items with
  | nil => rfl
  | cons v rest ih => rw [itemTrees, ih, List.map_cons]

theorem memberTrees_eq (members : List (String × Value)) :
    memberTrees members = members.map fun m => (some m.1, m.2.tree) := by
  induction members with
  | nil => rfl
  | cons m rest ih => rw [memberTrees, ih, List.map_cons]

theorem legibleItems_iff {items : List Value} :
    LegibleItems items ↔ ∀ v ∈ items, v.Legible := by
  induction items with
  | nil => simp [LegibleItems]
  | cons v rest ih => simp [LegibleItems, ih]

theorem legibleMembers_iff {members : List (String × Value)} :
    LegibleMembers members ↔ ∀ m ∈ members, m.2.Legible := by
  induction members with
  | nil => simp [LegibleMembers]
  | cons m rest ih => simp [LegibleMembers, ih]

/-! ### The scanner on written values -/

variable {c : Char} {cs ds : List Char} {t : Token} {new more tokens : List Token}

/-- Where the scanner stands once it has found these tokens, last first: between tokens, or at the
end of a word that is the last of them. -/
inductive Rests : Scanner → List Token → Prop where
  | between (tokens : List Token) : Rests ⟨.between, tokens⟩ tokens
  | word (seen : List Char) (t : Token) (tokens : List Token) :
      wordToken? seen.reverse = some t → Rests ⟨.word seen, tokens⟩ (t :: tokens)

theorem begin?_mark (mark : mark? c = some t) (tokens : List Token) :
    Scanner.begin? tokens c = some ⟨.between, t :: tokens⟩ ∧ isWord c = false := by
  unfold mark? at mark
  split_ifs at mark with h h h h h h <;>
  · cases mark
    subst h
    exact ⟨rfl, rfl⟩

/-- A mark ends a word. -/
theorem Rests.step?_mark {s : Scanner} (h : Rests s tokens) (mark : mark? c = some t) :
    s.step? c = some ⟨.between, t :: tokens⟩ := by
  cases h with
  | between => exact (begin?_mark mark tokens).1
  | word seen last tokens named =>
      obtain ⟨begun, other⟩ := begin?_mark mark (last :: tokens)
      simp [Scanner.step?, other, named, begun]

theorem Rests.finish? {s : Scanner} (h : Rests s tokens) : s.finish? = some tokens.reverse := by
  cases h with
  | between => rfl
  | word seen last tokens named => simp [Scanner.finish?, named]

/-- Between tokens, `cs` gives the tokens `new`. -/
def Scans (cs : List Char) (new : List Token) : Prop :=
  ∀ tokens, ∃ s, cs.foldlM Scanner.step? ⟨.between, tokens⟩ = some s ∧
    Rests s (new.reverse ++ tokens)

theorem Scans.nil : Scans [] [] := fun tokens => ⟨_, rfl, .between tokens⟩

/-- A mark between two texts is a token between theirs. -/
theorem Scans.join (front : Scans cs new) (mark : mark? c = some t) (back : Scans ds more) :
    Scans (cs ++ c :: ds) (new ++ t :: more) := by
  intro tokens
  obtain ⟨s, read, rests⟩ := front tokens
  obtain ⟨s', read', rests'⟩ := back (t :: (new.reverse ++ tokens))
  refine ⟨s', ?_, by simpa using rests'⟩
  rw [List.foldlM_append, read, Option.bind_eq_bind, Option.bind_some, List.foldlM_cons,
    rests.step?_mark mark]
  exact read'

theorem Scans.enclosed {first last : Char} {t' : Token} (opens : mark? first = some t)
    (inner : Scans cs new) (closes : mark? last = some t') :
    Scans (first :: cs ++ [last]) (t :: (new ++ [t'])) :=
  Scans.nil.join opens (inner.join closes .nil)

theorem scan_word {seen : List Char} (word : ∀ c ∈ cs, isWord c = true) :
    cs.foldlM Scanner.step? ⟨.word seen, tokens⟩ = some ⟨.word (cs.reverse ++ seen), tokens⟩ := by
  induction cs generalizing seen with
  | nil => rfl
  | cons c cs ih =>
      obtain ⟨first, rest⟩ := List.forall_mem_cons.mp word
      have read : Scanner.step? ⟨.word seen, tokens⟩ c = some ⟨.word (c :: seen), tokens⟩ := by
        simp [Scanner.step?, first]
      rw [List.foldlM_cons, read, Option.bind_eq_bind, Option.bind_some, ih rest]
      simp

theorem begin?_word (first : isWord c = true) :
    Scanner.begin? tokens c = some ⟨.word [c], tokens⟩ := by
  have filled : isSpace c = false := by
    refine Bool.eq_false_iff.mpr fun space => ?_
    simp only [isSpace, Bool.or_eq_true, beq_iff_eq] at space
    rcases space with ((rfl | rfl) | rfl) | rfl <;> cases first
  have unquoted : c ≠ '"' := by
    rintro rfl
    cases first
  simp [Scanner.begin?, filled, unquoted, first]

theorem Scans.word (word : ∀ c ∈ cs, isWord c = true) (named : wordToken? cs = some t) :
    Scans cs [t] := by
  intro tokens
  cases cs with
  | nil => cases named
  | cons c cs =>
      obtain ⟨first, rest⟩ := List.forall_mem_cons.mp word
      refine ⟨_, ?_, .word (cs.reverse ++ [c]) t tokens (by simpa using named)⟩
      rw [List.foldlM_cons, Scanner.step?, begin?_word first]
      exact scan_word rest

theorem Scans.text (s : String) : Scans (renderText s) [.text (some s)] :=
  fun tokens => ⟨_, scan_renderText s tokens, .between _⟩

theorem Scans.number {n : Number} (legible : n.Legible) : Scans n.render [.number n.literal] := by
  refine .word legible.word ?_
  have named := legible.literal
  have other (cs : List Char) (none_there : Literal.ofChars? cs = none) : n.render ≠ cs := by
    intro same
    rw [same, none_there] at named
    cases named
  simp [wordToken?, named, other ['n', 'u', 'l', 'l'] rfl, other ['t', 'r', 'u', 'e'] rfl,
    other ['f', 'a', 'l', 's', 'e'] rfl]

mutual

/-- The tokens in the text of a value are those of its document. -/
theorem scans_chars : ∀ v : Value, v.Legible → Scans v.chars v.tree.tokens
  | .null, _ => .word (List.all_eq_true.mp rfl) rfl
  | .boolean true, _ => .word (List.all_eq_true.mp rfl) rfl
  | .boolean false, _ => .word (List.all_eq_true.mp rfl) rfl
  | .number _, legible => .number legible
  | .text s, _ => .text s
  | .array items, legible => .enclosed rfl (scans_items items legible) rfl
  | .object members, legible => .enclosed rfl (scans_members members legible) rfl

theorem scans_items : ∀ items : List Value, LegibleItems items →
    Scans (itemChars items) (itemTokens (itemTrees items))
  | [], _ => .nil
  | [v], legible => scans_chars v legible.1
  | v :: w :: rest, legible =>
      (scans_chars v legible.1).join rfl (scans_items (w :: rest) legible.2)

theorem scans_members : ∀ members : List (String × Value), LegibleMembers members →
    Scans (memberChars members) (memberTokens (memberTrees members))
  | [], _ => .nil
  | [(k, v)], legible => (Scans.text k).join rfl (scans_chars v legible.1)
  | (k, v) :: m :: rest, legible => by
      have colon : mark? ':' = some .colon := rfl
      have comma : mark? ',' = some .comma := rfl
      have member := (Scans.text k).join colon (scans_chars v legible.1)
      exact member.join comma (scans_members (m :: rest) legible.2)

end

/-- What is written for a value is its document. -/
theorem Tree.parse?_render {v : Value} (legible : v.Legible) :
    Tree.parse? v.render = some v.tree := by
  obtain ⟨s, read, rests⟩ := scans_chars v legible []
  have scanned : tokens? v.chars = some v.tree.tokens := by
    rw [tokens?, Scanner.start, read, Option.bind_some, rests.finish?]
    simp
  have built := Reader.read?_tokens v.tree [] false
  rw [Reader.read?] at built
  simp only [Tree.parse?, Value.render, String.toList_ofList, scanned, Reader.start, built,
    Reader.put?, Option.bind_eq_bind, Option.bind_some]
  rfl

end DumpFlow.Json
