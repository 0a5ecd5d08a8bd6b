import Mathlib.Data.List.Basic

set_option autoImplicit false

/-!
# A POSIX shell reading one command line

What `c.run(line)` hands the shell: token recognition (XCU 2.3), the grammar of lists,
and-or lists, pipelines and simple commands (2.9, 2.10), the expansions of a word that
involve no files, users or subshells (parameter expansion in double quotes, quote removal),
and the two special built-ins `launch` uses, `trap` and `export`. The shell runs the line up
to the first command it starts from the file system. Where shells differ, or the outcome
depends on the file system, the model answers `unsupported` rather than pick one behaviour:
command and arithmetic substitution, unquoted `$`, `~` and pattern characters,
here-documents, newlines, compound commands, and built-ins in pipelines, in and-or lists,
with redirections, or other than `trap` and `export`.
-/

namespace DemeterBench

namespace Posix

def scan {σ α β ε : Type} (step : σ → α → Except ε (List β × σ)) :
    σ → List α → Except ε (List β × σ)
  | s, [] => .ok ([], s)
  | s, a :: as =>
    match step s a with
    | .error e => .error e
    | .ok (out, s') =>
      match scan step s' as with
      | .error e => .error e
      | .ok (out', s'') => .ok (out ++ out', s'')

section Scan

variable {σ α β ε : Type} (step : σ → α → Except ε (List β × σ))

theorem scan_cons_ok {s s' : σ} {a : α} {out : List β} (h : step s a = .ok (out, s'))
    (as : List α) :
    scan step s (a :: as) = (scan step s' as).map fun r => (out ++ r.1, r.2) := by
  simp only [scan, h]
  cases scan step s' as <;> rfl

theorem scan_append {s s' : σ} {xs : List α} {out : List β} (h : scan step s xs = .ok (out, s'))
    (ys : List α) :
    scan step s (xs ++ ys) = (scan step s' ys).map fun r => (out ++ r.1, r.2) := by
  induction xs generalizing s out with
  | nil =>
    cases h
    rw [List.nil_append]
    cases scan step s' ys <;> rfl
  | cons x xs ih =>
    simp only [scan] at h
    split at h
    · cases h
    · rename_i out₁ s₁ first
      split at h
      · cases h
      · rename_i out₂ s₂ rest
        cases h
        rw [List.cons_append, scan_cons_ok step first, ih rest]
        cases scan step s' ys <;> simp [Except.map]

end Scan

inductive ShellError where
  | syntaxError
  | unsupported
  deriving DecidableEq, Repr

/-! ### Token recognition -/

def isBlank (c : Char) : Bool := c = ' ' ∨ c = '\t'

def isOperatorStart (c : Char) : Bool := c ∈ ['&', '|', ';', '<', '>', '(', ')']

def operators : List (List Char) :=
  ["&&", "||", ";;", "<<", ">>", "<&", ">&", "<>", "<<-", ">|", "&", "|", ";", "<", ">", "(",
    ")"].map String.toList

inductive Token where
  | word (raw : List Char)
  | ioNumber (digits : List Char)
  | op (text : List Char)
  | newline
  deriving DecidableEq, Repr

inductive Quoting where
  | unquoted
  | single
  | double
  deriving DecidableEq, Repr

inductive Pending where
  | clear
  | backslash
  | dollar
  deriving DecidableEq, Repr

inductive LexState where
  | start
  | comment
  | op (text : List Char)
  | word (raw : List Char) (quoting : Quoting) (pending : Pending)
  deriving DecidableEq, Repr

/-- The token a word becomes when `c` delimits it (2.10.1). -/
def delimitWord (raw : List Char) (c : Char) : List Token :=
  if raw = [] then []
  else if (c = '<' ∨ c = '>') ∧ raw.all Char.isDigit then [.ioNumber raw]
  else [.word raw]

def unquotedChar (raw : List Char) (c : Char) : Except ShellError (List Token × LexState) :=
  if isBlank c then .ok (delimitWord raw c, .start)
  else if c = '\n' then .ok (delimitWord raw c ++ [.newline], .start)
  else if isOperatorStart c then .ok (delimitWord raw c, .op [c])
  else if c = '\\' then .ok ([], .word raw .unquoted .backslash)
  else if c = '\'' then .ok ([], .word (raw ++ [c]) .single .clear)
  else if c = '"' then .ok ([], .word (raw ++ [c]) .double .clear)
  else if c = '`' then .error .unsupported
  else if c = '$' then .ok ([], .word (raw ++ [c]) .unquoted .dollar)
  else .ok ([], .word (raw ++ [c]) .unquoted .clear)

def singleChar (raw : List Char) (c : Char) : Except ShellError (List Token × LexState) :=
  .ok ([], .word (raw ++ [c]) (if c = '\'' then .unquoted else .single) .clear)

def doubleChar (raw : List Char) (c : Char) : Except ShellError (List Token × LexState) :=
  if c = '"' then .ok ([], .word (raw ++ [c]) .unquoted .clear)
  else if c = '\\' then .ok ([], .word raw .double .backslash)
  else if c = '`' then .error .unsupported
  else if c = '$' then .ok ([], .word (raw ++ [c]) .double .dollar)
  else .ok ([], .word (raw ++ [c]) .double .clear)

def quotedChar (raw : List Char) : Quoting → Char → Except ShellError (List Token × LexState)
  | .unquoted, c => unquotedChar raw c
  | .single, c => singleChar raw c
  | .double, c => doubleChar raw c

/-- A character inside a word; `$(`, `${`, `$'` and `$"` are left out. -/
def wordChar (raw : List Char) (quoting : Quoting) :
    Pending → Char → Except ShellError (List Token × LexState)
  | .clear, c => quotedChar raw quoting c
  | .backslash, c =>
    .ok ([], .word (if c = '\n' then raw else raw ++ ['\\', c]) quoting .clear)
  | .dollar, c =>
    if c = '(' ∨ c = '{' ∨ quoting = .unquoted ∧ (c = '\'' ∨ c = '"') then .error .unsupported
    else quotedChar raw quoting c

def startChar (c : Char) : Except ShellError (List Token × LexState) :=
  if isBlank c then .ok ([], .start)
  else if c = '#' then .ok ([], .comment)
  else unquotedChar [] c

def opChar (text : List Char) (c : Char) : Except ShellError (List Token × LexState) :=
  if text ++ [c] ∈ operators then .ok ([], .op (text ++ [c]))
  else (startChar c).map fun r => (.op text :: r.1, r.2)

def lexChar : LexState → Char → Except ShellError (List Token × LexState)
  | .start, c => startChar c
  | .comment, c => .ok (if c = '\n' then [.newline] else [], if c = '\n' then .start else .comment)
  | .op text, c => opChar text c
  | .word raw quoting pending, c => wordChar raw quoting pending c

def lexEnd : LexState → Except ShellError (List Token)
  | .start | .comment => .ok []
  | .op text => .ok [.op text]
  | .word _ .unquoted .backslash => .error .unsupported
  | .word raw .unquoted _ => .ok (delimitWord raw ' ')
  | .word _ _ _ => .error .syntaxError

def lex (line : List Char) : Except ShellError (List Token) := do
  let (tokens, s) ← scan lexChar .start line
  let last ← lexEnd s
  pure (tokens ++ last)

/-! ### Grammar -/

structure Redirect where
  ioNumber : Option (List Char)
  op : List Char
  target : List Char
  deriving DecidableEq, Repr

structure SimpleCommand where
  assignments : List (List Char)
  words : List (List Char)
  redirects : List Redirect
  deriving DecidableEq, Repr

def SimpleCommand.empty : SimpleCommand := ⟨[], [], []⟩

def SimpleCommand.isEmpty (c : SimpleCommand) : Bool :=
  c.assignments.isEmpty && c.words.isEmpty && c.redirects.isEmpty

def SimpleCommand.addAssignment (c : SimpleCommand) (w : List Char) : SimpleCommand :=
  { c with assignments := c.assignments ++ [w] }

def SimpleCommand.addWord (c : SimpleCommand) (w : List Char) : SimpleCommand :=
  { c with words := c.words ++ [w] }

def SimpleCommand.addRedirect (c : SimpleCommand) (r : Redirect) : SimpleCommand :=
  { c with redirects := c.redirects ++ [r] }

inductive Sep where
  | semi
  | amp
  | andIf
  | orIf
  | pipe
  | last
  deriving DecidableEq, Repr

def separator (o : List Char) : Option Sep :=
  if o = [';'] then some .semi
  else if o = ['&'] then some .amp
  else if o = ['&', '&'] then some .andIf
  else if o = ['|', '|'] then some .orIf
  else if o = ['|'] then some .pipe
  else none

def redirectOperators : List (List Char) := ["<", ">", ">>", "<&", ">&", "<>", ">|"].map String.toList

def reservedWords : List (List Char) :=
  ["!", "\x7b", "\x7d", "case", "do", "done", "elif", "else", "esac", "fi", "for", "if", "in", "then",
    "until", "while", "[[", "]]", "function", "select", "time", "coproc"].map String.toList

def isNameStart (c : Char) : Bool := c.isAlpha || c = '_'

def isNameChar (c : Char) : Bool := c.isAlphanum || c = '_'

def isName : List Char → Bool
  | [] => false
  | c :: cs => isNameStart c && cs.all isNameChar

def isAssignment (raw : List Char) : Bool := isName (raw.takeWhile (· ≠ '=')) && raw.contains '='

structure ParseState where
  current : SimpleCommand
  ioNumber : Option (List Char)
  redirect : Option (Option (List Char) × List Char)
  needsCommand : Bool
  deriving DecidableEq, Repr

def ParseState.fresh : ParseState := ⟨.empty, none, none, false⟩

def parseToken (s : ParseState) : Token →
    Except ShellError (List (SimpleCommand × Sep) × ParseState)
  | .newline => .error .unsupported
  | .ioNumber n =>
    if s.redirect.isSome then .error .syntaxError else .ok ([], { s with ioNumber := some n })
  | .word w =>
    match s.redirect with
    | some (fd, o) => .ok ([], { s with current := s.current.addRedirect ⟨fd, o, w⟩, redirect := none })
    | none =>
      if s.current.isEmpty ∧ w ∈ reservedWords then .error .unsupported
      else if s.current.words = [] ∧ isAssignment w then
        .ok ([], { s with current := s.current.addAssignment w })
      else .ok ([], { s with current := s.current.addWord w })
  | .op o =>
    if s.redirect.isSome then .error .syntaxError
    else if o ∈ redirectOperators then .ok ([], { s with redirect := some (s.ioNumber, o), ioNumber := none })
    else if o = ['<', '<'] ∨ o = ['<', '<', '-'] ∨ o = ['('] then .error .unsupported
    else
      match separator o with
      | some sep =>
        if s.current.isEmpty then .error .syntaxError
        else .ok ([(s.current, sep)], { ParseState.fresh with
          needsCommand := sep = .andIf ∨ sep = .orIf ∨ sep = .pipe })
      | none => .error .syntaxError

def parseEnd (s : ParseState) : Except ShellError (List (SimpleCommand × Sep)) :=
  if s.redirect.isSome then .error .syntaxError
  else if s.current.isEmpty then (if s.needsCommand then .error .syntaxError else .ok [])
  else .ok [(s.current, .last)]

def parse (tokens : List Token) : Except ShellError (List (SimpleCommand × Sep)) := do
  let (commands, s) ← scan parseToken .fresh tokens
  let last ← parseEnd s
  pure (commands ++ last)

def readLine (line : List Char) : Except ShellError (List (SimpleCommand × Sep)) :=
  lex line >>= parse

/-! ### Expansion -/

def value (vars : List (String × String)) (name : List Char) : List Char :=
  ((vars.lookup (String.mk name)).getD "").toList

inductive ExpandState where
  | unquoted
  | single
  | double
  | escaped (inDouble : Bool)
  | param (name : List Char)
  deriving DecidableEq, Repr

def doubleQuoted (c : Char) : Except ShellError (List Char × ExpandState) :=
  if c = '"' then .ok ([], .unquoted)
  else if c = '\\' then .ok ([], .escaped true)
  else if c = '$' then .ok ([], .param [])
  else if c = '`' then .error .unsupported
  else .ok ([c], .double)

def unquotedSpecial : List Char := ['$', '`', '*', '?', '[', '~']

def expandChar (vars : List (String × String)) :
    ExpandState → Char → Except ShellError (List Char × ExpandState)
  | .unquoted, c =>
    if c = '\\' then .ok ([], .escaped false)
    else if c = '\'' then .ok ([], .single)
    else if c = '"' then .ok ([], .double)
    else if c ∈ unquotedSpecial then .error .unsupported
    else .ok ([c], .unquoted)
  | .single, c => .ok (if c = '\'' then ([], .unquoted) else ([c], .single))
  | .double, c => doubleQuoted c
  | .escaped false, c => .ok ([c], .unquoted)
  | .escaped true, c => .ok (if c ∈ ['$', '`', '"', '\\'] then [c] else ['\\', c], .double)
  | .param name, c =>
    if isNameChar c ∧ (name ≠ [] ∨ isNameStart c) then .ok ([], .param (name ++ [c]))
    else if name = [] then .error .unsupported
    else (doubleQuoted c).map fun r => (value vars name ++ r.1, r.2)

def expandWord (vars : List (String × String)) (raw : List Char) : Except ShellError (List Char) := do
  let (out, s) ← scan (expandChar vars) .unquoted raw
  if s = .unquoted then pure out else .error .unsupported

/-! ### Running the line -/

structure Shell where
  vars : List (String × String)
  exported : List String
  traps : List (String × Option String)
  deriving DecidableEq, Repr

def Shell.get (sh : Shell) (name : String) : Option String := sh.vars.lookup name

def Shell.trap (sh : Shell) (condition : String) : Option String := (sh.traps.lookup condition).join

def Shell.assign (sh : Shell) (name value : String) : Shell := { sh with vars := (name, value) :: sh.vars }

def Shell.export (sh : Shell) (name : String) : Shell := { sh with exported := name :: sh.exported }

@[simp] theorem Shell.traps_assign (sh : Shell) (n v : String) : (sh.assign n v).traps = sh.traps := rfl

@[simp] theorem Shell.traps_export (sh : Shell) (n : String) : (sh.export n).traps = sh.traps := rfl

def exportOperand (sh : Shell) (arg : List Char) : Except ShellError Shell :=
  let name := arg.takeWhile (· ≠ '=')
  if !isName name then .error .unsupported
  else if arg.length = name.length then .ok (sh.export (String.mk name))
  else .ok ((sh.assign (String.mk name) (String.mk (arg.drop (name.length + 1)))).export (String.mk name))

def runExport (sh : Shell) (args : List (List Char)) : Except ShellError Shell :=
  if args.head?.bind List.head? = some '-' then .error .unsupported
  else args.foldlM exportOperand sh

def signalNames : List (List Char) :=
  ["HUP", "INT", "QUIT", "ILL", "TRAP", "ABRT", "BUS", "FPE", "USR1", "SEGV", "USR2", "PIPE",
    "ALRM", "TERM", "CHLD", "CONT", "TSTP", "TTIN", "TTOU", "URG", "XCPU", "XFSZ", "VTALRM",
    "PROF", "WINCH", "SYS"].map String.toList

/-- `EXIT`, `0`, or a signal name, with the `SIG` prefix shells accept as an extension. -/
def isTrapCondition (c : List Char) : Bool :=
  c = "EXIT".toList ∨ c = ['0'] ∨ c ∈ signalNames ∨ c.take 3 = "SIG".toList ∧ c.drop 3 ∈ signalNames

def runTrap (sh : Shell) : List (List Char) → Except ShellError Shell
  | action :: condition :: conditions =>
    if action ≠ [] ∧ action.all Char.isDigit ∨ action.head? = some '-' ∧ action ≠ ['-'] then
      .error .unsupported
    else if (condition :: conditions).all isTrapCondition then
      .ok { sh with traps := (condition :: conditions).reverse.map (fun c =>
        (String.mk c, if action = ['-'] then none else some (String.mk action))) ++ sh.traps }
    else .error .unsupported
  | _ => .error .unsupported

/-- Built-ins other than `trap` and `export`, which the model does not run. -/
def builtinNames : List (List Char) :=
  [":", ".", "break", "continue", "eval", "exec", "exit", "readonly", "return", "set", "shift",
    "times", "unset", "alias", "bg", "cd", "command", "false", "fc", "fg", "getopts", "hash",
    "jobs", "kill", "newgrp", "pwd", "read", "true", "type", "ulimit", "umask", "unalias", "wait",
    "echo", "printf", "test", "[", "local", "declare", "typeset", "source", "let", "builtin",
    "enable", "shopt", "history", "caller", "compgen", "complete", "dirs", "popd", "pushd",
    "disown", "logout", "mapfile", "readarray", "suspend", "bind", "help"].map String.toList

def assignWord (sh : Shell) (raw : List Char) : Except ShellError Shell := do
  let name := raw.takeWhile (· ≠ '=')
  let value ← expandWord sh.vars (raw.drop (name.length + 1))
  pure (sh.assign (String.mk name) (String.mk value))

/-- A command runs in the shell itself only as a whole list item. -/
def standalone (before after : Sep) : Bool :=
  (before = .semi ∨ before = .amp) ∧ (after = .semi ∨ after = .last)

inductive Outcome where
  | failed (error : ShellError)
  /-- The shell starts `command` from the file system, with these variables and traps. -/
  | invokes (sh : Shell) (command : SimpleCommand)
  | finished (sh : Shell)
  deriving DecidableEq, Repr

def execute : Shell → Sep → List (SimpleCommand × Sep) → Outcome
  | sh, _, [] => .finished sh
  | sh, before, (cmd, after) :: rest =>
    match cmd.words with
    | [] =>
      if standalone before after ∧ cmd.redirects = [] then
        match cmd.assignments.foldlM assignWord sh with
        | .ok sh' => execute sh' after rest
        | .error e => .failed e
      else .failed .unsupported
    | name :: args =>
      match expandWord sh.vars name with
      | .error e => .failed e
      | .ok n =>
        if n = "trap".toList ∨ n = "export".toList then
          if standalone before after ∧ cmd.assignments = [] ∧ cmd.redirects = [] then
            match args.mapM (expandWord sh.vars) with
            | .error e => .failed e
            | .ok argv =>
              match if n = "trap".toList then runTrap sh argv else runExport sh argv with
              | .ok sh' => execute sh' after rest
              | .error e => .failed e
          else .failed .unsupported
        else if n ∈ builtinNames then .failed .unsupported
        else .invokes sh cmd

/-- The shell reads the whole line first; a line it cannot read runs nothing. -/
def run (sh : Shell) (line : List Char) : Outcome :=
  match readLine line with
  | .error e => .failed e
  | .ok commands => execute sh .semi commands

/-! ### Plain words -/

def lexSpecial : List Char :=
  [' ', '\t', '\n', '&', '|', ';', '<', '>', '(', ')', '\\', '\'', '"', '`', '$']

def isLiteralChar (c : Char) : Bool :=
  c.isAlphanum || c ∈ ['_', '-', '.', '/', ',', ':', '+', '@', '%', '=']

theorem literal_not_special {c : Char} (literal : isLiteralChar c) :
    c ∉ lexSpecial ∧ c ∉ unquotedSpecial ∧ c ≠ '#' := by
  have specials : ∀ s ∈ lexSpecial ++ unquotedSpecial ++ ['#'], isLiteralChar s = false := by
    decide
  refine ⟨fun h => ?_, fun h => ?_, fun h => ?_⟩ <;>
    exact absurd literal (by rw [specials c (by simp [h])]; decide)

theorem nameChar_literal {c : Char} (name : isNameChar c) : isLiteralChar c := by
  simp only [isNameChar, Bool.or_eq_true, decide_eq_true_eq] at name
  rcases name with alnum | rfl
  · simp [isLiteralChar, alnum]
  · decide

theorem unquotedChar_plain (raw : List Char) {c : Char} (plain : c ∉ lexSpecial) :
    unquotedChar raw c = .ok ([], .word (raw ++ [c]) .unquoted .clear) := by
  simp only [lexSpecial, List.mem_cons, List.not_mem_nil, or_false, not_or] at plain
  simp [unquotedChar, isBlank, isOperatorStart, plain]

theorem lexChar_plain (raw : List Char) {c : Char} (plain : c ∉ lexSpecial) :
    lexChar (.word raw .unquoted .clear) c = .ok ([], .word (raw ++ [c]) .unquoted .clear) :=
  unquotedChar_plain raw plain

theorem scan_lexChar_plain (raw w : List Char) (plain : ∀ c ∈ w, c ∉ lexSpecial) :
    scan lexChar (.word raw .unquoted .clear) w = .ok ([], .word (raw ++ w) .unquoted .clear) := by
  induction w generalizing raw with
  | nil => simp [scan]
  | cons c w ih =>
    simp only [List.forall_mem_cons] at plain
    rw [scan_cons_ok lexChar (lexChar_plain raw plain.1), ih _ plain.2]
    simp [Except.map]

theorem scan_lexChar_word {c : Char} (w rest : List Char) (plain : ∀ x ∈ c :: w, x ∉ lexSpecial)
    (comment : c ≠ '#') :
    scan lexChar .start (c :: w ++ ' ' :: rest) =
      (scan lexChar .start rest).map fun r => (.word (c :: w) :: r.1, r.2) := by
  have first : lexChar .start c = .ok ([], .word [c] .unquoted .clear) := by
    have blank : isBlank c = false := by
      have := plain c (List.mem_cons_self _ _)
      simp only [lexSpecial, List.mem_cons, not_or] at this
      simp [isBlank, this.1, this.2.1]
    simp [lexChar, startChar, blank, comment, unquotedChar_plain [] (plain c (List.mem_cons_self _ _))]
  have body := scan_lexChar_plain [c] w fun x hx => plain x (List.mem_cons_of_mem _ hx)
  rw [List.singleton_append] at body
  have blank : lexChar (.word (c :: w) .unquoted .clear) ' ' = .ok ([.word (c :: w)], .start) := by
    simp [lexChar, wordChar, quotedChar, unquotedChar, isBlank, delimitWord]
  rw [List.cons_append, scan_cons_ok lexChar first, scan_append lexChar body,
    scan_cons_ok lexChar blank]
  cases scan lexChar .start rest <;> simp [Except.map]

/-! ### Reading a line in pieces -/

theorem lex_append {P : List Char} {ts : List Token} (lexed : scan lexChar .start P = .ok (ts, .start))
    (S : List Char) : lex (P ++ S) = (lex S).map (ts ++ ·) := by
  simp only [lex, scan_append lexChar lexed]
  cases scan lexChar .start S with
  | error => rfl
  | ok r => cases h : lexEnd r.2 <;> simp [h, Except.map, bind, Except.bind, pure, Except.pure]

theorem parse_append {ts : List Token} {cmds : List (SimpleCommand × Sep)}
    (parsed : scan parseToken .fresh ts = .ok (cmds, .fresh)) (us : List Token) :
    parse (ts ++ us) = (parse us).map (cmds ++ ·) := by
  simp only [parse, scan_append parseToken parsed]
  cases scan parseToken .fresh us with
  | error => rfl
  | ok r => cases h : parseEnd r.2 <;> simp [h, Except.map, bind, Except.bind, pure, Except.pure]

theorem readLine_append {P : List Char} {ts : List Token} {cmds : List (SimpleCommand × Sep)}
    (lexed : scan lexChar .start P = .ok (ts, .start))
    (parsed : scan parseToken .fresh ts = .ok (cmds, .fresh)) (S : List Char) :
    readLine (P ++ S) = (readLine S).map (cmds ++ ·) := by
  simp only [readLine, lex_append lexed]
  cases lex S with
  | error => rfl
  | ok us => simp only [Except.map, bind, Except.bind, parse_append parsed]

def Leads (lead : List (List Char)) (c : SimpleCommand) : Prop := c.assignments = [] ∧ lead <+: c.words

theorem expandWord_literal (vars : List (String × String)) (w : List Char)
    (literal : ∀ c ∈ w, isLiteralChar c) : expandWord vars w = .ok w := by
  suffices scan (expandChar vars) .unquoted w = .ok (w, .unquoted) by
    rw [expandWord, this]
    rfl
  induction w with
  | nil => rfl
  | cons c w ih =>
    simp only [List.forall_mem_cons] at literal
    obtain ⟨plain, special, -⟩ := literal_not_special literal.1
    simp only [lexSpecial, List.mem_cons, not_or] at plain
    have step : expandChar vars .unquoted c = .ok ([c], .unquoted) := by
      simp [expandChar, plain, special]
    rw [scan_cons_ok _ step, ih literal.2]
    rfl

/-! ### Blank-separated literal text -/

def pending : List Char → LexState
  | [] => .start
  | c :: w => .word (c :: w) .unquoted .clear

def blankWords (raw : List Char) : List Char → List (List Char)
  | [] => if raw = [] then [] else [raw]
  | c :: s =>
    if c = ' ' then (if raw = [] then [] else [raw]) ++ blankWords [] s
    else blankWords (raw ++ [c]) s

theorem lexChar_pending_literal (raw : List Char) {c : Char} (literal : isLiteralChar c) :
    lexChar (pending raw) c = .ok ([], pending (raw ++ [c])) := by
  obtain ⟨plain, -, notHash⟩ := literal_not_special literal
  cases raw with
  | nil =>
    have blank : isBlank c = false := by
      simp only [lexSpecial, List.mem_cons, not_or] at plain
      simp [isBlank, plain.1, plain.2.1]
    simp [lexChar, startChar, blank, notHash, unquotedChar_plain [] plain, pending]
  | cons d w => exact lexChar_plain (d :: w) plain

theorem lexChar_pending_blank (raw : List Char) :
    lexChar (pending raw) ' ' = .ok ((if raw = [] then [] else [raw]).map .word, .start) := by
  cases raw <;> rfl

theorem scan_lexChar_text (raw s rest : List Char) (text : ∀ c ∈ s, isLiteralChar c ∨ c = ' ') :
    scan lexChar (pending raw) (s ++ ' ' :: rest) =
      (scan lexChar .start rest).map fun r => ((blankWords raw s).map .word ++ r.1, r.2) := by
  induction s generalizing raw with
  | nil =>
    rw [List.nil_append, scan_cons_ok lexChar (lexChar_pending_blank raw)]
    rfl
  | cons c s ih =>
    simp only [List.forall_mem_cons] at text
    rcases text.1 with literal | rfl
    · have notBlank : c ≠ ' ' := fun h => absurd (h ▸ literal) (by decide)
      rw [List.cons_append, scan_cons_ok lexChar (lexChar_pending_literal raw literal),
        ih _ text.2, blankWords, if_neg notBlank]
      cases scan lexChar .start rest <;> rfl
    · have next := ih [] text.2
      rw [pending] at next
      rw [List.cons_append, scan_cons_ok lexChar (lexChar_pending_blank raw), next,
        blankWords, if_pos rfl]
      cases scan lexChar .start rest <;> simp [Except.map]

theorem blankWords_append_blank (raw a b : List Char) :
    blankWords raw (a ++ ' ' :: b) = blankWords raw a ++ blankWords [] b := by
  induction a generalizing raw with
  | nil => simp [blankWords]
  | cons c a ih =>
    by_cases blank : c = ' '
    · simp [blankWords, blank, ih]
    · simp [blankWords, blank, ih]

theorem scan_lexChar_words (ws : List (List Char)) (rest : List Char)
    (plain : ∀ w ∈ ws, w ≠ [] ∧ ∀ c ∈ w, isLiteralChar c) :
    scan lexChar .start (ws.flatMap (· ++ [' ']) ++ rest) =
      (scan lexChar .start rest).map fun r => (ws.map .word ++ r.1, r.2) := by
  induction ws with
  | nil =>
    rw [List.flatMap_nil, List.nil_append]
    cases scan lexChar .start rest <;> rfl
  | cons w ws ih =>
    simp only [List.forall_mem_cons] at plain
    obtain ⟨⟨nonempty, chars⟩, more⟩ := plain
    obtain ⟨c, w, rfl⟩ := List.exists_cons_of_ne_nil nonempty
    rw [List.flatMap_cons, List.append_assoc, List.append_assoc, List.singleton_append,
      scan_lexChar_word _ _ (fun x hx => (literal_not_special (chars x hx)).1)
        (literal_not_special (chars c (List.mem_cons_self _ _))).2.2, ih more]
    cases scan lexChar .start rest <;> rfl

theorem scan_parseToken_words (s : ParseState) (ws : List (List Char)) (noRedirect : s.redirect = none)
    (started : s.current.words ≠ []) :
    scan parseToken s (ws.map .word) =
      .ok ([], { s with current := { s.current with words := s.current.words ++ ws } }) := by
  induction ws generalizing s with
  | nil =>
    rw [List.append_nil]
    rfl
  | cons w ws ih =>
    have notEmpty : s.current.isEmpty = false := by simp [SimpleCommand.isEmpty, started]
    have step : parseToken s (.word w) = .ok ([], { s with current := s.current.addWord w }) := by
      simp [parseToken, noRedirect, notEmpty, started]
    rw [List.map_cons, scan_cons_ok parseToken step,
      ih { s with current := s.current.addWord w } noRedirect (by simp [SimpleCommand.addWord])]
    simp [SimpleCommand.addWord, Except.map]

end Posix

end DemeterBench
