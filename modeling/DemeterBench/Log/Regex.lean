import Mathlib.Data.List.Basic

set_option autoImplicit false

/-!
# Python's `re`, as `parse_log.py` uses it

`re.compile` on the part of the pattern syntax the metric table uses (literals and escapes, `.`,
sets, groups and named groups, alternation, and the greedy `?`, `*` and `+`), and
`Pattern.search` as sre runs it: a backtracking match that tries the left alternative and the
longer repeat first, at each start position in turn. `\d` and `\w` are their ASCII halves, where
Python's str patterns take the Unicode classes. Every pattern of the metric table starts with a
literal, and the results on reports are stated for texts whose digits after that literal are
ASCII (GNU time's clock, the decimal values of `/proc/vmstat`), on which the two agree.
-/

namespace DemeterBench.Re

/-- A member of a set: a character, a range, `\d` or `\w`. -/
inductive SetItem where
  | char (c : Char)
  | range (lo hi : Char)
  | digit
  | word
  deriving DecidableEq, Repr

def SetItem.admits (c : Char) : SetItem → Bool
  | .char d => c == d
  | .range lo hi => decide (lo ≤ c ∧ c ≤ hi)
  | .digit => c.isDigit
  | .word => c.isAlphanum || c == '_'

inductive Node where
  | empty
  | lit (c : Char)
  | any
  | set (items : List SetItem)
  | seq (a b : Node)
  | alt (a b : Node)
  | group (name : Option String) (a : Node)
  | rep (min : Nat) (max : Option Nat) (a : Node)
  deriving DecidableEq, Repr

def Node.groupNames : Node → List String
  | .seq a b | .alt a b => a.groupNames ++ b.groupNames
  | .group name a => name.toList ++ a.groupNames
  | .rep _ _ a => a.groupNames
  | _ => []

abbrev Captures := List (String × List Char)

/-! ### Matching -/

def matchChar (ok : Char → Bool) :
    List Char → Captures → (List Char → Captures → Option Captures) → Option Captures
  | c :: s, caps, k => if ok c then k s caps else none
  | [], _, _ => none

def capture (name : Option String) (start rest : List Char) (caps : Captures) : Captures :=
  match name with
  | some n => (n, start.take (start.length - rest.length)) :: caps
  | none => caps

/-- sre's greedy repeat `count` iterations in; it stops after an empty iteration past `min`. -/
def repeatFrom (body : List Char → Captures → (List Char → Captures → Option Captures) → Option Captures)
    (min : Nat) (max : Option Nat) :
    Nat → Nat → List Char → Captures → (List Char → Captures → Option Captures) → Option Captures
  | 0, _, _, _, _ => none
  | fuel + 1, count, s, caps, k =>
    let more := if max.all (count < ·) then
        body s caps fun s' caps' =>
          if count < min ∨ s'.length < s.length then repeatFrom body min max fuel (count + 1) s' caps' k
          else k s' caps'
      else none
    if count < min then more else more <|> k s caps

/-- Match a node at the start of the input and hand the rest to `k`, in sre's backtracking order. -/
def matchNode : Node → List Char → Captures → (List Char → Captures → Option Captures) → Option Captures
  | .empty, s, caps, k => k s caps
  | .lit c, s, caps, k => matchChar (· == c) s caps k
  | .any, s, caps, k => matchChar (· != '\n') s caps k
  | .set items, s, caps, k => matchChar (fun c => items.any (·.admits c)) s caps k
  | .seq a b, s, caps, k => matchNode a s caps fun s' caps' => matchNode b s' caps' k
  | .alt a b, s, caps, k => matchNode a s caps k <|> matchNode b s caps k
  | .group name a, s, caps, k => matchNode a s caps fun s' caps' => k s' (capture name s s' caps')
  | .rep min max a, s, caps, k => repeatFrom (matchNode a) min max (min + s.length + 1) 0 s caps k

def done : List Char → Captures → Option Captures := fun _ caps => some caps

/-- `Pattern.search`: the captures of the match at the first start position where there is one. -/
def search (pattern : Node) : List Char → Option Captures
  | [] => matchNode pattern [] [] done
  | c :: s => matchNode pattern (c :: s) [] done <|> search pattern s

@[simp] theorem matchChar_nil (ok : Char → Bool) (caps : Captures)
    (k : List Char → Captures → Option Captures) : matchChar ok [] caps k = none := rfl

@[simp] theorem matchChar_cons (ok : Char → Bool) (c : Char) (s : List Char) (caps : Captures)
    (k : List Char → Captures → Option Captures) :
    matchChar ok (c :: s) caps k = if ok c then k s caps else none := rfl

section Equations

variable (s : List Char) (caps : Captures) (k : List Char → Captures → Option Captures)

@[simp] theorem matchNode_empty : matchNode .empty s caps k = k s caps := rfl

@[simp] theorem matchNode_lit (c : Char) : matchNode (.lit c) s caps k = matchChar (· == c) s caps k :=
  rfl

@[simp] theorem matchNode_any : matchNode .any s caps k = matchChar (· != '\n') s caps k := rfl

@[simp] theorem matchNode_set (items : List SetItem) :
    matchNode (.set items) s caps k = matchChar (fun c => items.any (·.admits c)) s caps k := rfl

@[simp] theorem matchNode_seq (a b : Node) :
    matchNode (.seq a b) s caps k = matchNode a s caps fun s' caps' => matchNode b s' caps' k := rfl

@[simp] theorem matchNode_alt (a b : Node) :
    matchNode (.alt a b) s caps k = (matchNode a s caps k <|> matchNode b s caps k) := rfl

@[simp] theorem matchNode_group (name : Option String) (a : Node) :
    matchNode (.group name a) s caps k =
      matchNode a s caps fun s' caps' => k s' (capture name s s' caps') := rfl

theorem matchNode_rep (min : Nat) (max : Option Nat) (a : Node) :
    matchNode (.rep min max a) s caps k = repeatFrom (matchNode a) min max (min + s.length + 1) 0 s caps k :=
  rfl

end Equations

theorem search_cons (pattern : Node) (c : Char) (s : List Char) :
    search pattern (c :: s) = (matchNode pattern (c :: s) [] done <|> search pattern s) := rfl

/-! ### Compiling a pattern -/

/-- The members of a set up to its `]`; a range with an escaped end is left out. -/
def setItems : List Char → Option (List SetItem × List Char)
  | ']' :: s => some ([], s)
  | '\\' :: 'd' :: s => (setItems s).map fun (items, rest) => (.digit :: items, rest)
  | '\\' :: 'w' :: s => (setItems s).map fun (items, rest) => (.word :: items, rest)
  | '\\' :: c :: s =>
    if c.isAlphanum then none else (setItems s).map fun (items, rest) => (.char c :: items, rest)
  | c :: '-' :: d :: s =>
    if d = ']' then some ([.char c, .char '-'], s)
    else if d = '\\' ∨ d < c then none
    else (setItems s).map fun (items, rest) => (.range c d :: items, rest)
  | c :: s => (setItems s).map fun (items, rest) => (.char c :: items, rest)
  | [] => none

/-- A set: a `]` right after the `[` is a member; a negated set is left out. -/
def setStart : List Char → Option (List SetItem × List Char)
  | '^' :: _ => none
  | ']' :: s => (setItems s).map fun (items, rest) => (.char ']' :: items, rest)
  | s => setItems s

/-- `str.isidentifier` on ASCII names. -/
def isIdentifier : List Char → Bool
  | c :: cs => (c.isAlpha || c == '_') && cs.all fun c => c.isAlphanum || c == '_'
  | [] => false

/-- After a `(`: a `(?P<name>` group; other `(?` extensions are left out. -/
def groupStart : List Char → Option (Option String × List Char)
  | '?' :: 'P' :: '<' :: s =>
    match s.span (· ≠ '>') with
    | (name, '>' :: rest) => if isIdentifier name then some (some ⟨name⟩, rest) else none
    | _ => none
  | '?' :: _ => none
  | s => some (none, s)

/-- An escape outside a set: `\d`, `\w`, or a character that is not a letter or digit. -/
def escape (c : Char) : Option Node :=
  if c = 'd' then some (.set [.digit])
  else if c = 'w' then some (.set [.word])
  else if c.isAlphanum then none
  else some (.lit c)

/-- A greedy repeat; a `?` or `+` after it makes it lazy or possessive, which is left out. -/
def greedy (item : Node) : List Char → Option (Node × List Char)
  | '?' :: _ | '+' :: _ => none
  | s => some (item, s)

/-- The repeat operator after an item, if any; counted repeats in braces are left out. -/
def quantify (item : Node) : List Char → Option (Node × List Char)
  | '?' :: s => greedy (.rep 0 (some 1) item) s
  | '*' :: s => greedy (.rep 0 none item) s
  | '+' :: s => greedy (.rep 1 none item) s
  | '{' :: _ => none
  | s => some (item, s)

def seqOf (pieces : List Node) : Node := pieces.foldr .seq .empty

def altOf : List Node → Node
  | [] => .empty
  | [b] => b
  | b :: bs => .alt b (altOf bs)

def finish (pieces branches : List Node) : Node := altOf (branches.reverse ++ [seqOf pieces.reverse])

/-- sre_parse's `_parse_sub`. -/
def parseSub : Nat → List Char → List Node → List Node → Option (Node × List Char)
  | 0, _, _, _ => none
  | _ + 1, [], pieces, branches => some (finish pieces branches, [])
  | _ + 1, ')' :: s, pieces, branches => some (finish pieces branches, ')' :: s)
  | fuel + 1, '|' :: s, pieces, branches => parseSub fuel s [] (seqOf pieces.reverse :: branches)
  | fuel + 1, '(' :: s, pieces, branches => do
    let (name, body) ← groupStart s
    let (node, rest) ← parseSub fuel body [] []
    match rest with
    | ')' :: rest =>
      let (item, rest) ← quantify (.group name node) rest
      parseSub fuel rest (item :: pieces) branches
    | _ => none
  | fuel + 1, '[' :: s, pieces, branches => do
    let (items, rest) ← setStart s
    let (item, rest) ← quantify (.set items) rest
    parseSub fuel rest (item :: pieces) branches
  | fuel + 1, '\\' :: c :: s, pieces, branches => do
    let (item, rest) ← quantify (← escape c) s
    parseSub fuel rest (item :: pieces) branches
  | fuel + 1, c :: s, pieces, branches =>
    if c ∈ ['*', '+', '?', '{', '^', '$', '\\'] then none else do
    let (item, rest) ← quantify (if c = '.' then .any else .lit c) s
    parseSub fuel rest (item :: pieces) branches

/-- `re.compile`; `none` also for the syntax the model leaves out. -/
def compile (pattern : String) : Option Node :=
  match parseSub (pattern.length + 1) pattern.data [] [] with
  | some (node, []) => if node.groupNames.Nodup then some node else none
  | _ => none

example : compile "a(?P<b>\\d+)|c" =
    some (.alt (seqOf [.lit 'a', .group (some "b") (seqOf [.rep 1 none (.set [.digit])])]) (seqOf [.lit 'c'])) := by
  decide

end DemeterBench.Re
