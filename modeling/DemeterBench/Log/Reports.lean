import DemeterBench.Log.Records
import Mathlib.Tactic.NormNum

set_option autoImplicit false

/-!
# What the metrics read from the reports of a run

A workload's `.err` file ends with the verbose report `/bin/time` writes, and `ElapsedMetric`
reads the clock of its elapsed line, `h:mm:ss` or `m:ss` as the phrase before it says. The clock
is read back whole: the optional hours are tried first and given up when the line has only
minutes and seconds, and the seconds keep their fraction. The `vmstat` metrics read
`/proc/vmstat`, a line per counter; their search is not anchored at a line's start.
-/

namespace DemeterBench.ParseLog

open Re

/-! ### Runs of digits -/

theorem admits_digit : (fun c => [SetItem.digit].any (·.admits c)) = Char.isDigit := by
  funext c
  simp [SetItem.admits]

section Digits

variable {ds rest : List Char} {caps res : Captures} {k : List Char → Captures → Option Captures}

theorem matchNode_digitRep_longest (min : Nat) (digits : ∀ c ∈ ds, c.isDigit) (least : min ≤ ds.length)
    (stop : ∀ c s, rest = c :: s → c.isDigit = false) (found : k rest caps = some res) :
    matchNode (.rep min none (.set [.digit])) (ds ++ rest) caps k = some res := by
  rw [matchNode_rep, matchNode_set_eq, admits_digit]
  exact repeatFrom_chars_longest stop found ds _ 0 digits (by rw [List.length_append]; omega) (by omega)

theorem matchNode_digitsGroup_longest (n : String) (digits : ∀ c ∈ ds, c.isDigit) (nonempty : ds ≠ [])
    (stop : ∀ c s, rest = c :: s → c.isDigit = false) (found : k rest ((n, ds) :: caps) = some res) :
    matchNode (.group (some n) (seqOf [digitsNode])) (ds ++ rest) caps k = some res := by
  simp only [matchNode_group, seqOf_cons, seqOf_nil, matchNode_seq, matchNode_empty]
  exact matchNode_digitRep_longest 1 digits (List.length_pos.mpr nonempty) stop
    (by rw [capture_append]; exact found)

theorem matchNode_digitsGroup_none (n : String) (digits : ∀ c ∈ ds, c.isDigit)
    (stop : ∀ c s, rest = c :: s → c.isDigit = false)
    (fails : ∀ j ≤ ds.length, 1 ≤ j → ∀ caps', k (ds.drop j ++ rest) caps' = none) :
    matchNode (.group (some n) (seqOf [digitsNode])) (ds ++ rest) caps k = none := by
  simp only [matchNode_group, seqOf_cons, seqOf_nil, matchNode_seq, matchNode_empty, digitsNode, matchNode_rep,
    matchNode_set_eq, admits_digit]
  exact repeatFrom_chars_none stop ds _ 0 digits (by rw [List.length_append]; omega)
    fun j le least => fails j le (by omega) _

theorem matchNode_lit_digits_drop {c : Char} (notDigit : c.isDigit = false) (digits : ∀ d ∈ ds, d.isDigit)
    {j : Nat} (inside : j < ds.length) : matchNode (.lit c) (ds.drop j ++ rest) caps k = none := by
  obtain ⟨d, more, dropped⟩ := List.exists_cons_of_ne_nil (List.ne_nil_of_length_pos
    (by rw [List.length_drop]; omega : 0 < (ds.drop j).length))
  have differ : d ≠ c := fun same =>
    absurd (digits d (List.mem_of_mem_drop (dropped ▸ List.mem_cons_self d more))) (by rw [same, notDigit]; decide)
  simp [dropped, differ]

end Digits

/-! ### GNU time's elapsed line -/

/-- A nonempty run of ASCII digits, as `\d+` matches it. -/
structure Digits where
  chars : List Char
  nonempty : chars ≠ []
  digits : ∀ c ∈ chars, c.isDigit

/-- The clock of GNU time's elapsed line, `h:mm:ss` or `m:ss`, of ASCII digits. -/
structure Clock where
  hours : Option Digits
  minutes : Digits
  seconds : Digits
  fraction : Option (List Char)
  fraction_digits : ∀ f ∈ fraction, ∀ c ∈ f, c.isDigit

namespace Clock

variable (clock : Clock)

def fractionText : List Char := (clock.fraction.map ('.' :: ·)).getD []

def secondsText : List Char := clock.seconds.chars ++ clock.fractionText

def text : List Char :=
  (clock.hours.map fun h => h.chars ++ [':']).getD [] ++ clock.minutes.chars ++ ':' :: clock.secondsText

def hoursDouble : Double := (clock.hours.map fun h => .ofNat (digitsValue h.chars)).getD (.ofNat 0)

def secondsDouble : Double :=
  match clock.fraction with
  | none => .ofNat (digitsValue clock.seconds.chars)
  | some f => .ofFrac (digitsValue clock.seconds.chars * 10 ^ f.length + digitsValue f) (10 ^ f.length)

/-- The seconds as `ElapsedMetric.fn` computes them, each operation rounded to binary64. -/
def elapsed : Double :=
  (((Double.ofNat 0).add (clock.hoursDouble.mul (.ofNat 3600))).add
    ((Double.ofNat (digitsValue clock.minutes.chars)).mul (.ofNat 60))).add (clock.secondsDouble.mul (.ofNat 1))

def captures : Captures :=
  [("ss", clock.secondsText), ("mm", clock.minutes.chars)] ++ (clock.hours.map fun h => ("hh", h.chars)).toList

end Clock

def minutesSecondsNode : Node := seqOf [.group (some "mm") (seqOf [digitsNode]), .lit ':', secondsNode]

section Clock

variable (clock : Clock) (post : List Char)

theorem fractionText_stop : ∀ c s, clock.fractionText ++ '\n' :: post = c :: s → c.isDigit = false ∧ c ≠ ':' := by
  rintro c s split
  cases h : clock.fraction <;>
    simp only [Clock.fractionText, h, Option.map_none', Option.getD_none, Option.map_some', Option.getD_some,
      List.nil_append, List.cons_append, List.cons.injEq] at split <;>
    rw [← split.1] <;> decide

theorem matchNode_seconds {caps res : Captures} {k : List Char → Captures → Option Captures}
    (found : k ('\n' :: post) (("ss", clock.secondsText) :: caps) = some res) :
    matchNode secondsNode (clock.secondsText ++ '\n' :: post) caps k = some res := by
  replace found : k ('\n' :: post) (capture (some "ss") (clock.secondsText ++ '\n' :: post) ('\n' :: post) caps) =
      some res := by rw [capture_append]; exact found
  simp only [secondsNode, matchNode_group, seqOf_cons, seqOf_nil, matchNode_seq, matchNode_empty,
    Clock.secondsText, List.append_assoc] at found ⊢
  refine matchNode_digitRep_longest 1 clock.seconds.digits (List.length_pos.mpr clock.seconds.nonempty)
    (fun c s split => (fractionText_stop clock post c s split).1) ?_
  rw [matchNode_optional]
  cases h : clock.fraction with
  | none =>
    simp only [Clock.fractionText, h, Option.map_none', Option.getD_none, List.nil_append, matchNode_lit,
      matchChar_cons] at found ⊢
    rw [if_neg (by decide), Option.none_orElse, ← List.nil_append ('\n' :: post)]
    exact matchNode_digitRep_longest 0 (fun _ => nomatch ·) (Nat.zero_le _) (fun c s split => by cases split; rfl)
      found
  | some f =>
    simp only [Clock.fractionText, h, Option.map_some', Option.getD_some, List.cons_append, matchNode_lit,
      matchChar_cons, beq_self_eq_true, if_true] at found ⊢
    rw [matchNode_digitRep_longest 0 (clock.fraction_digits f h) (Nat.zero_le _) (fun c s split => by cases split; rfl)
      (k := fun s caps' => k s (capture (some "ss") _ s caps')) found]
    rfl

theorem matchNode_minutesSeconds (caps : Captures) :
    matchNode minutesSecondsNode (clock.minutes.chars ++ ':' :: (clock.secondsText ++ '\n' :: post)) caps done =
      some (("ss", clock.secondsText) :: ("mm", clock.minutes.chars) :: caps) := by
  rw [minutesSecondsNode, seqOf_cons, matchNode_seq]
  refine matchNode_digitsGroup_longest "mm" clock.minutes.digits clock.minutes.nonempty
    (fun c s split => by cases split; rfl) ?_
  simp only [seqOf_cons, seqOf_nil, matchNode_seq, matchNode_lit, matchChar_cons, beq_self_eq_true, if_true,
    matchNode_empty]
  exact matchNode_seconds clock post (k := fun s caps => matchNode .empty s caps done) rfl

theorem matchNode_hours_none (caps : Captures) (k : List Char → Captures → Option Captures) :
    matchNode (.group none (seqOf [.group (some "hh") (seqOf [digitsNode]), .lit ':']))
      (clock.minutes.chars ++ ':' :: (clock.secondsText ++ '\n' :: post)) caps
      (fun s caps => matchNode minutesSecondsNode s caps k) = none := by
  rw [matchNode_group _ _ _ none, seqOf_cons, matchNode_seq]
  refine matchNode_digitsGroup_none "hh" clock.minutes.digits (fun c s split => ?_) fun j le _ caps' => ?_
  · cases split; rfl
  rcases Nat.lt_or_eq_of_le le with inside | rfl
  · exact matchNode_lit_digits_drop (by decide) clock.minutes.digits inside
  · simp only [List.drop_length, List.nil_append, matchNode_lit, matchChar_cons, beq_self_eq_true, if_true,
      seqOf_cons, seqOf_nil, matchNode_seq, matchNode_empty, capture, minutesSecondsNode, Clock.secondsText,
      List.append_assoc]
    refine matchNode_digitsGroup_none "mm" clock.seconds.digits
      (fun c s split => (fractionText_stop clock post c s split).1) fun j' le' _ caps'' => ?_
    rcases Nat.lt_or_eq_of_le le' with inside | rfl
    · exact matchNode_lit_digits_drop (by decide) clock.seconds.digits inside
    · rw [List.drop_length, List.nil_append]
      cases split : clock.fractionText ++ '\n' :: post with
      | nil => rfl
      | cons c s =>
        have other := (fractionText_stop clock post c s split).2
        simp [other]

theorem matchNode_clock :
    matchNode (seqOf [hoursNode, .group (some "mm") (seqOf [digitsNode]), .lit ':', secondsNode])
      (clock.text ++ '\n' :: post) [] done = some clock.captures := by
  rw [seqOf_cons, matchNode_seq, hoursNode, matchNode_optional, ← minutesSecondsNode]
  cases h : clock.hours with
  | none =>
    simp only [Clock.text, h, Option.map_none', Option.getD_none, List.nil_append, List.append_assoc,
      List.cons_append]
    rw [matchNode_hours_none clock post [] done, Option.none_orElse, Clock.captures, h]
    exact matchNode_minutesSeconds clock post []
  | some hours =>
    simp only [Clock.text, h, Option.map_some', Option.getD_some, List.append_assoc, List.cons_append,
      List.singleton_append]
    refine (Option.orElse_eq_some _ _ _).mpr (.inl ?_)
    rw [matchNode_group _ _ _ none, seqOf_cons, matchNode_seq]
    refine matchNode_digitsGroup_longest "hh" hours.digits hours.nonempty (fun c s split => ?_) ?_
    · cases split; rfl
    · simp only [seqOf_cons, seqOf_nil, matchNode_seq, matchNode_lit, matchChar_cons, beq_self_eq_true, if_true,
        matchNode_empty, capture]
      rw [Clock.captures, h]
      exact matchNode_minutesSeconds clock post _

theorem search_elapsedLine (pre : List Char) (first : ¬ elapsedPhrase <:+: pre) :
    search elapsedNode (pre ++ '\t' :: (elapsedPhrase ++ clock.text ++ '\n' :: post)) = some clock.captures := by
  rw [List.append_cons, search_append elapsedNode _ (pre ++ ['\t']) fun i lt => ?_]
  · apply search_of_match
    rw [elapsedNode, List.append_assoc, matchNode_lits]
    exact matchNode_clock clock post
  · refine matchNode_lits_of_not_prefix _ _ _ _ fun starts => first ?_
    rw [← List.append_cons] at starts
    exact infix_of_prefix_drop (by decide) (by rw [List.length_append] at lt; exact Nat.lt_succ_iff.mp lt) starts

end Clock

/-! ### What `ElapsedMetric` makes of the clock -/

namespace Clock

variable (clock : Clock)

theorem pyFloat_secondsText : pyFloat clock.secondsText = some clock.secondsDouble := by
  rw [secondsText, fractionText, secondsDouble]
  cases h : clock.fraction with
  | none =>
    rw [Option.map_none', Option.getD_none, List.append_nil]
    exact pyFloat_digits clock.seconds.nonempty clock.seconds.digits
  | some f => exact pyFloat_point clock.seconds.nonempty clock.seconds.digits (clock.fraction_digits f h)

theorem elapsedFn_captures : elapsedFn (groupdict elapsedNode clock.captures) = .ok (.float clock.elapsed) := by
  have names : elapsedNode.groupNames = ["hh", "mm", "ss"] := by decide
  have hours : floatOrZero (groupdict elapsedNode clock.captures) "hh" = .ok clock.hoursDouble := by
    rw [hoursDouble]
    cases h : clock.hours with
    | none => exact floatOrZero_absent (by simp [names]) (by simp [captures, h, List.lookup_cons, List.lookup_nil])
    | some hours =>
      exact floatOrZero_captured (by simp [names]) (by simp [captures, h, List.lookup_cons, List.lookup_nil]) hours.nonempty
        (pyFloat_digits hours.nonempty hours.digits)
  have minutes := floatOrZero_captured (by simp [names]) (by simp [captures, List.lookup_cons] : clock.captures.lookup "mm" = _)
    clock.minutes.nonempty (pyFloat_digits clock.minutes.nonempty clock.minutes.digits)
  have seconds := floatOrZero_captured (by simp [names]) (by simp [captures, List.lookup_cons] : clock.captures.lookup "ss" = _)
    (by simp [secondsText, clock.seconds.nonempty]) clock.pyFloat_secondsText
  exact elapsedFn_eq hours minutes seconds

end Clock

theorem elapsedMetric_clock (key : String) (value : PyValue) (pre post : List Char) (clock : Clock)
    (first : ¬ elapsedPhrase <:+: pre) :
    elapsedMetric key value (.text ⟨pre ++ '\t' :: (elapsedPhrase ++ clock.text ++ '\n' :: post)⟩) =
      .ok ⟨key, .float clock.elapsed⟩ := by
  rw [elapsedMetric, fnRegexMetric, searchMetric_of_compile compile_elapsedRegex]
  simp only [readMetric, search_elapsedLine clock post pre first, clock.elapsedFn_captures]
  rfl

set_option maxRecDepth 2000 in
theorem elapsedMetric_clock_minutes :
    ¬ elapsedPhrase <:+: "Command being timed: \"gups\"\n".data ∧
      elapsedMetric "gups" .none
          (.text "Command being timed: \"gups\"\n\tElapsed (wall clock) time (h:mm:ss or m:ss): 2:03.45\n\tExit status: 0\n") =
        .ok ⟨"gups", .float (.finite 8687021468732621 (-46))⟩ :=
  ⟨fun inside => absurd inside.length_le (by decide),
    (elapsedMetric_clock "gups" .none "Command being timed: \"gups\"\n".data "\tExit status: 0\n".data
      ⟨none, ⟨['2'], by decide, by decide⟩, ⟨['0', '3'], by decide, by decide⟩, some ['4', '5'], by decide⟩
      fun inside => absurd inside.length_le (by decide)).trans
      (congrArg (fun x : Double => (Except.ok ⟨"gups", .float x⟩ : Except Raised Metric)) (by decide))⟩


/-! ### The counters of `/proc/vmstat` -/

def identChar (c : Char) : Bool := c.isAlphanum || c == '_'

def plainChar (c : Char) : Bool := identChar c || c == ' '

theorem plain_not_mem {c : Char} (plain : plainChar c) {l : List Char} (special : ∀ d ∈ l, plainChar d = false) :
    c ∉ l :=
  fun mem => absurd plain (by rw [special c mem]; decide)

theorem quantify_plain (item : Node) {x : List Char} (next : ∀ c s, x = c :: s → c ∉ ['*', '+', '?', '{']) :
    quantify item x = some (item, x) :=
  quantify.eq_5 _ _ (fun s h => next _ s h (by decide)) (fun s h => next _ s h (by decide))
    (fun s h => next _ s h (by decide)) (fun s h => next _ s h (by decide))

theorem parseSub_plain (fuel : Nat) {rest : List Char} (branches : List Node)
    (next : ∀ c s, rest = c :: s → c ∉ ['*', '+', '?', '{']) :
    ∀ (t : List Char) (pieces : List Node), (∀ c ∈ t, plainChar c) →
      parseSub (fuel + t.length) (t ++ rest) pieces branches = parseSub fuel rest ((lits t).reverse ++ pieces) branches
  | [], _, _ => rfl
  | c :: t, pieces, plain => by
    have plainC := plain c (List.mem_cons_self _ _)
    have after : ∀ d s, t ++ rest = d :: s → d ∉ ['*', '+', '?', '{'] := by
      intro d s split
      cases t with
      | nil => exact next d s split
      | cons e t =>
        cases split
        exact plain_not_mem (plain d (by simp)) (by decide)
    rw [List.length_cons, ← Nat.add_assoc, List.cons_append,
      parseSub.eq_8 _ _ _ _ _ (fun h => absurd (h ▸ plainC) (by decide)) (fun h => absurd (h ▸ plainC) (by decide))
        (fun h => absurd (h ▸ plainC) (by decide)) (fun h => absurd (h ▸ plainC) (by decide))
        (fun _ _ h _ => absurd (h ▸ plainC) (by decide)),
      if_neg (plain_not_mem plainC (by decide)), if_neg fun h => absurd (h ▸ plainC) (by decide),
      quantify_plain _ after, Option.bind_eq_bind, Option.some_bind]
    exact (parseSub_plain fuel branches next t _ fun d mem => plain d (List.mem_cons_of_mem _ mem)).trans
      (by simp [lits])

theorem isIdentifier_chars : ∀ {t : List Char}, isIdentifier t → ∀ c ∈ t, identChar c
  | c :: cs, ident => by
    simp only [isIdentifier, Bool.and_eq_true, List.all_eq_true] at ident
    intro d mem
    rcases List.mem_cons.mp mem with rfl | mem
    · revert ident; simp only [identChar, Char.isAlphanum]; cases d.isAlpha <;> simp_all
    · exact ident.2 d mem

theorem plainChar_of_identChar {c : Char} (ident : identChar c) : plainChar c := by
  simp [plainChar, ident]

def counterRegex (key : String) : String := key ++ " (?P<" ++ key ++ ">\\d+)"

def counterNode (key : String) : Node := seqOf (lits (key.data ++ [' ']) ++ [.group (some key) (seqOf [digitsNode])])

theorem groupNames_seqOf_lits (t : List Char) (more : List Node) :
    (seqOf (lits t ++ more)).groupNames = (seqOf more).groupNames := by
  induction t with
  | nil => rfl
  | cons c t ih =>
    simp only [lits, List.map_cons, List.cons_append, seqOf_cons, Node.groupNames, List.nil_append] at ih ⊢
    exact ih

theorem counterNode_groupNames (key : String) : (counterNode key).groupNames = [key] := by
  rw [counterNode, groupNames_seqOf_lits]
  rfl

theorem compile_counterRegex (key : String) (ident : isIdentifier key.data) :
    compile (counterRegex key) = some (counterNode key) := by
  have plain := fun c mem => plainChar_of_identChar (isIdentifier_chars ident c mem)
  have data : (counterRegex key).data =
      (key.data ++ [' ']) ++ '(' :: '?' :: 'P' :: '<' :: (key.data ++ ['>', '\\', 'd', '+', ')']) := by
    simp only [counterRegex, String.data_append, List.append_assoc]
    rfl
  have length : (counterRegex key).length + 1 = (key.data.length + 9 + 1) + (key.data ++ [' ']).length := by
    rw [show (counterRegex key).length = (counterRegex key).data.length from rfl, data]
    simp only [List.length_append, List.length_cons, List.length_nil]
    omega
  rw [compile, length, data, parseSub_plain _ _ (fun c s h => by cases h; decide) _ _ fun c mem => ?_]
  · have noClose : ∀ c ∈ key.data, decide (c ≠ '>') := fun c mem => by
      have differ : c ≠ '>' := by rintro rfl; exact absurd (plain _ mem) (by decide)
      simpa using differ
    have span : (key.data ++ ['>', '\\', 'd', '+', ')']).span (· ≠ '>') = (key.data, ['>', '\\', 'd', '+', ')']) :=
      span_append_of_all noClose fun b rest h => by cases h; rfl
    have digit : escape 'd' = some (.set [.digit]) := rfl
    have more : quantify (.set [.digit]) ['+', ')'] = some (digitsNode, [')']) := rfl
    have last : ∀ item, quantify item [] = some (item, []) := fun item => quantify_plain item fun _ _ h => nomatch h
    simp only [parseSub, groupStart, span, ident, if_true, Option.bind_eq_bind, Option.some_bind, digit, more, last,
      List.append_nil]
    have node : finish (.group (some ⟨key.data⟩) (finish [digitsNode] []) :: (lits (key.data ++ [' '])).reverse) [] =
        counterNode key := by
      simp only [finish, List.reverse_nil, List.nil_append, altOf, List.reverse_cons, List.reverse_reverse]
      rfl
    rw [node, if_pos (by rw [counterNode_groupNames]; exact List.pairwise_singleton _ key)]
  · exact (List.mem_append.mp mem).elim (plain c) fun mem => by rw [List.mem_singleton.mp mem]; rfl

/-- `/proc/vmstat`: a line per counter, its name, a blank and its value. -/
def vmstatText (counters : List (List Char × Nat)) : List Char :=
  counters.flatMap fun (name, v) => name ++ ' ' :: (decimal v ++ ['\n'])

theorem prefix_of_prefix_sep {c : Char} : ∀ {p a v : List Char}, c ∉ p → p <+: a ++ c :: v → p <+: a
  | [], _, _, _, _ => List.nil_prefix
  | d :: p, [], _, absent, starts => absurd ((List.cons_prefix_cons.mp starts).1 ▸ List.mem_cons_self d p) absent
  | d :: p, e :: a, _, absent, starts => by
    obtain ⟨rfl, rest⟩ := List.cons_prefix_cons.mp starts
    exact (List.prefix_cons_inj d).mpr (prefix_of_prefix_sep (fun mem => absent (List.mem_cons_of_mem _ mem)) rest)

theorem eq_of_prefix_sep {c : Char} : ∀ {a b v : List Char}, c ∉ a → c ∉ b → a ++ [c] <+: b ++ c :: v → a = b
  | [], [], _, _, _, _ => rfl
  | [], d :: b, _, _, absent, starts => absurd ((List.cons_prefix_cons.mp starts).1 ▸ List.mem_cons_self d b) absent
  | d :: a, [], _, absent, _, starts => absurd ((List.cons_prefix_cons.mp starts).1 ▸ List.mem_cons_self d a) absent
  | d :: a, e :: b, _, absentA, absentB, starts => by
    obtain ⟨rfl, rest⟩ := List.cons_prefix_cons.mp starts
    rw [eq_of_prefix_sep (fun mem => absentA (List.mem_cons_of_mem _ mem))
      (fun mem => absentB (List.mem_cons_of_mem _ mem)) rest]

section Counters

variable (key : String) (ident : isIdentifier key.data)
include ident

theorem blank_not_mem_key : ' ' ∉ key.data := fun mem => absurd (isIdentifier_chars ident _ mem) (by decide)

theorem counterNode_not_in_line {name : List Char} (blank : ' ' ∉ name) (other : ¬ key.data <:+ name) (v : Nat)
    (rest : List Char) {i : Nat} (inside : i < (name ++ ' ' :: (decimal v ++ ['\n'])).length) :
    matchNode (counterNode key) ((name ++ ' ' :: (decimal v ++ ['\n']) ++ rest).drop i) [] done = none := by
  refine matchNode_lits_of_not_prefix _ _ _ _ fun starts => ?_
  rcases Nat.lt_or_ge name.length i with later | early
  · obtain ⟨j, rfl⟩ : ∃ j, i = name.length + (j + 1) := ⟨i - name.length - 1, by omega⟩
    rw [List.append_assoc, List.cons_append, List.drop_append, List.drop_succ_cons, List.append_assoc,
      List.singleton_append, List.drop_append_of_le_length (by simp at inside; omega)] at starts
    have digits := prefix_of_prefix_sep (fun mem => absurd (List.mem_append.mp mem) (by
      rintro (mem | mem)
      · exact absurd (isIdentifier_chars ident _ mem) (by decide)
      · simp at mem)) starts
    exact absurd (decimal_isDigit v ' ' (List.mem_of_mem_drop (digits.subset (by simp)))) (by decide)
  · rw [List.append_assoc, List.drop_append_of_le_length early, List.cons_append] at starts
    exact other (eq_of_prefix_sep (blank_not_mem_key key ident)
      (fun mem => blank (List.mem_of_mem_drop mem)) starts ▸ List.drop_suffix i name)

theorem search_counterNode : ∀ counters : List (List Char × Nat), (∀ e ∈ counters, ' ' ∉ e.1) →
    search (counterNode key) (vmstatText counters) =
      (counters.find? fun e => key.data.isSuffixOf e.1).map fun e => [(key, decimal e.2)]
  | [], _ => matchNode_lits_of_not_prefix _ _ _ _ fun starts => by simpa using List.prefix_nil.mp starts
  | (name, v) :: counters, blank => by
    have line : vmstatText ((name, v) :: counters) = name ++ ' ' :: (decimal v ++ ['\n']) ++ vmstatText counters :=
      rfl
    by_cases ends : key.data <:+ name
    · rw [List.find?_cons_of_pos (p := fun e : List Char × Nat => key.data.isSuffixOf e.1) _ (List.isSuffixOf_iff_suffix.mpr ends)]
      obtain ⟨x, rfl⟩ := ends
      have regroup : x ++ key.data ++ ' ' :: (decimal v ++ ['\n']) ++ vmstatText counters =
          x ++ (key.data ++ [' '] ++ (decimal v ++ '\n' :: vmstatText counters)) := by simp
      rw [line, regroup, search_append _ _ x fun i lt => ?_]
      · apply search_of_match
        rw [counterNode, matchNode_lits]
        exact matchNode_digitsGroup_longest key (decimal_isDigit v) (decimal_ne_nil v) (fun c s h => by cases h; rfl)
          rfl
      · refine matchNode_lits_of_not_prefix _ _ _ _ fun starts => ?_
        rw [List.drop_append_of_le_length lt.le] at starts
        simp only [List.append_assoc, List.singleton_append] at starts
        rw [← List.append_assoc] at starts
        have same := congrArg List.length (eq_of_prefix_sep (blank_not_mem_key key ident)
          (fun mem => absurd (List.mem_append.mp mem) (by
            rintro (mem | mem)
            · exact blank _ (List.mem_cons_self _ _) (List.mem_append_left _ (List.mem_of_mem_drop mem))
            · exact blank_not_mem_key key ident mem)) starts)
        simp at same
        omega
    · rw [List.find?_cons_of_neg (p := fun e : List Char × Nat => key.data.isSuffixOf e.1) _ (mt List.isSuffixOf_iff_suffix.mp ends), line,
        search_append _ _ _ fun i lt => counterNode_not_in_line key ident (blank _ (List.mem_cons_self _ _)) ends v _ lt]
      exact search_counterNode counters fun e mem => blank e (List.mem_cons_of_mem _ mem)

end Counters

theorem regexMetric_vmstat (key : String) (ident : isIdentifier key.data) (value : PyValue)
    (counters : List (List Char × Nat)) (blank : ∀ e ∈ counters, ' ' ∉ e.1) :
    regexMetric key value (.text ⟨vmstatText counters⟩) (counterRegex key) =
      .ok ⟨key, ((counters.find? fun e => key.data.isSuffixOf e.1).map fun e => PyValue.str ⟨decimal e.2⟩).getD value⟩ := by
  rw [regexMetric, searchMetric_of_compile (compile_counterRegex key ident)]
  simp only [readMetric, search_counterNode key ident counters blank]
  cases (counters.find? fun e => key.data.isSuffixOf e.1) with
  | none => rfl
  | some e => simp [group, counterNode_groupNames, List.lookup_cons]

theorem vmstat_counterRegex : ∀ d ∈ vmMetricDefs, d.file = "vmstat" →
    d = .regex d.key .none "vmstat" (counterRegex d.key) ∧ isIdentifier d.key.data := by
  decide

theorem vmstat_metric (d : MetricDef) (listed : d ∈ vmMetricDefs) (vmstat : d.file = "vmstat")
    (files : String → LogFile) (counters : List (List Char × Nat)) (blank : ∀ e ∈ counters, ' ' ∉ e.1)
    (text : files "vmstat" = .text ⟨vmstatText counters⟩) :
    d.init files = .ok ⟨d.key, ((counters.find? fun e => d.key.data.isSuffixOf e.1).map
      fun e => PyValue.str ⟨decimal e.2⟩).getD .none⟩ := by
  obtain ⟨same, ident⟩ := vmstat_counterRegex d listed vmstat
  calc d.init files = regexMetric d.key .none (files "vmstat") (counterRegex d.key) := by rw [same]; rfl
    _ = _ := by rw [text]; exact regexMetric_vmstat d.key ident .none counters blank

theorem vmstat_metric_suffix :
    MetricDef.regex "demote_ns" .none "vmstat" "demote_ns (?P<demote_ns>\\d+)" ∈ vmMetricDefs ∧
      (MetricDef.regex "demote_ns" .none "vmstat" "demote_ns (?P<demote_ns>\\d+)").file = "vmstat" ∧
      (∀ e ∈ [("nr_demote_ns".data, 5), ("demote_ns".data, 7)], ' ' ∉ e.1) ∧
      (fun _ => LogFile.text ⟨vmstatText [("nr_demote_ns".data, 5), ("demote_ns".data, 7)]⟩) "vmstat" =
        .text ⟨vmstatText [("nr_demote_ns".data, 5), ("demote_ns".data, 7)]⟩ ∧
      (MetricDef.regex "demote_ns" .none "vmstat" "demote_ns (?P<demote_ns>\\d+)").init
        (fun _ => .text ⟨vmstatText [("nr_demote_ns".data, 5), ("demote_ns".data, 7)]⟩) = .ok ⟨"demote_ns", .str "5"⟩ :=
  ⟨by decide, rfl, by decide, rfl, (vmstat_metric (.regex "demote_ns" .none "vmstat" "demote_ns (?P<demote_ns>\\d+)")
    (by decide) rfl _ [("nr_demote_ns".data, 5), ("demote_ns".data, 7)] (by decide) rfl).trans rfl⟩


end DemeterBench.ParseLog
