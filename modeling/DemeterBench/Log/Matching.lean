import DemeterBench.Log.Regex

set_option autoImplicit false

/-!
# What a match of the `re` model means

`Lang r t` says that the node `r` matches the text `t`, read as a regular language. The
backtracking matcher is sound for it: what a match consumes is a text of the language, and a
named group captures a text of its body's language. The rest are the computations the metric
proofs run: a literal prefix, a greedy repeat of one character class, an optional node, and a
search that passes over a prefix in which no match starts.
-/

namespace DemeterBench.Re

theorem capture_append (name : Option String) (t s : List Char) (caps : Captures) :
    capture name (t ++ s) s caps = (name.map fun n => (n, t)).toList ++ caps := by
  cases name
  · rfl
  · simp only [capture, List.length_append, Nat.add_sub_cancel, List.take_left, Option.map_some',
      Option.toList_some, List.singleton_append]

@[simp] theorem seqOf_nil : seqOf [] = .empty := rfl

@[simp] theorem seqOf_cons (a : Node) (pieces : List Node) : seqOf (a :: pieces) = .seq a (seqOf pieces) :=
  rfl

def lits (t : List Char) : List Node := t.map .lit

theorem matchNode_lits (t : List Char) (more : List Node) (s : List Char) (caps : Captures)
    (k : List Char → Captures → Option Captures) :
    matchNode (seqOf (lits t ++ more)) (t ++ s) caps k = matchNode (seqOf more) s caps k := by
  induction t with
  | nil => rfl
  | cons c t ih => simpa [lits] using ih

theorem matchNode_lits_of_not_prefix (t : List Char) (more : List Node) (caps : Captures)
    (k : List Char → Captures → Option Captures) :
    ∀ {s : List Char}, ¬ t <+: s → matchNode (seqOf (lits t ++ more)) s caps k = none := by
  induction t with
  | nil => exact fun differs => absurd List.nil_prefix differs
  | cons c t ih =>
    intro s differs
    cases s with
    | nil => rfl
    | cons d s =>
      by_cases same : d = c
      · subst same
        simpa [lits] using ih (mt (List.prefix_cons_inj d).mpr differs)
      · simp [lits, same]

theorem repeatFrom_char_cons (ok : Char → Bool) (min : Nat) (max : Option Nat) (fuel count : Nat)
    (c : Char) (s : List Char) (caps : Captures) (k : List Char → Captures → Option Captures) :
    repeatFrom (matchChar ok) min max (fuel + 1) count (c :: s) caps k =
      let more := if max.all (count < ·) && ok c then
        repeatFrom (matchChar ok) min max fuel (count + 1) s caps k else none
      if count < min then more else more <|> k (c :: s) caps := by
  have shorter : count < min ∨ s.length < (c :: s).length := .inr (Nat.lt_succ_self _)
  simp only [repeatFrom, matchChar_cons, if_pos shorter, Bool.and_eq_true]
  by_cases allowed : max.all (count < ·) <;> by_cases admitted : ok c <;> simp [allowed, admitted]

theorem repeatFrom_char_stop (ok : Char → Bool) (min : Nat) (max : Option Nat) (fuel count : Nat)
    {s : List Char} (caps : Captures) (k : List Char → Captures → Option Captures)
    (stop : ∀ c s', s = c :: s' → ok c = false) :
    repeatFrom (matchChar ok) min max (fuel + 1) count s caps k = if count < min then none else k s caps := by
  cases s with
  | nil => by_cases least : count < min <;> simp [repeatFrom, least]
  | cons c s => by_cases least : count < min <;> simp [repeatFrom, least, stop c s rfl]

section Greedy

variable {ok : Char → Bool} {min : Nat} {rest : List Char} {caps : Captures}
  {k : List Char → Captures → Option Captures}

theorem repeatFrom_chars_longest {res : Captures} (stop : ∀ c s, rest = c :: s → ok c = false)
    (found : k rest caps = some res) :
    ∀ (ds : List Char) (fuel count : Nat), (∀ c ∈ ds, ok c = true) → ds.length < fuel →
      min ≤ count + ds.length → repeatFrom (matchChar ok) min none fuel count (ds ++ rest) caps k = some res
  | _, 0, _, _, short, _ => absurd short (Nat.not_lt_zero _)
  | [], fuel + 1, count, _, _, least => by
    rw [List.nil_append, repeatFrom_char_stop ok min none fuel count caps k stop, if_neg (by simpa using least)]
    exact found
  | d :: ds, fuel + 1, count, run, short, least => by
    have later := repeatFrom_chars_longest stop found ds fuel (count + 1)
      (fun c mem => run c (List.mem_cons_of_mem _ mem)) (by simpa using short) (by simp at least; omega)
    rw [List.cons_append, repeatFrom_char_cons]
    simp [run d (List.mem_cons_self _ _), later]

theorem repeatFrom_chars_none (stop : ∀ c s, rest = c :: s → ok c = false) :
    ∀ (ds : List Char) (fuel count : Nat), (∀ c ∈ ds, ok c = true) → ds.length < fuel →
      (∀ j ≤ ds.length, min ≤ count + j → k (ds.drop j ++ rest) caps = none) →
      repeatFrom (matchChar ok) min none fuel count (ds ++ rest) caps k = none
  | _, 0, _, _, short, _ => absurd short (Nat.not_lt_zero _)
  | [], fuel + 1, count, _, _, fails => by
    rw [List.nil_append, repeatFrom_char_stop ok min none fuel count caps k stop]
    split
    · rfl
    · exact fails 0 (Nat.zero_le _) (by omega)
  | d :: ds, fuel + 1, count, run, short, fails => by
    have later := repeatFrom_chars_none stop ds fuel (count + 1)
      (fun c mem => run c (List.mem_cons_of_mem _ mem)) (by simpa using short)
      (fun j le least => fails (j + 1) (by simpa using le) (by omega))
    rw [List.cons_append, repeatFrom_char_cons]
    have first := fails 0 (Nat.zero_le _)
    by_cases below : count < min <;> simp_all

end Greedy

theorem matchNode_set_eq (items : List SetItem) :
    matchNode (.set items) = matchChar fun c => items.any (·.admits c) := rfl

theorem matchNode_optional (a : Node) (s : List Char) (caps : Captures)
    (k : List Char → Captures → Option Captures) :
    matchNode (.rep 0 (some 1) a) s caps k = (matchNode a s caps k <|> k s caps) := by
  have once : (fun s' caps' => if 0 < 0 ∨ s'.length < s.length then
      repeatFrom (matchNode a) 0 (some 1) (0 + s.length) (0 + 1) s' caps' k else k s' caps') = k := by
    funext s' caps'
    split
    · rename_i shorter
      obtain ⟨fuel, enough⟩ : ∃ fuel, 0 + s.length = fuel + 1 := ⟨s.length - 1, by omega⟩
      simp [enough, repeatFrom]
    · rfl
  simp only [matchNode_rep, repeatFrom]
  rw [once]
  rfl

/-! ### Searching -/

theorem search_append (pattern : Node) (s : List Char) :
    ∀ pre : List Char, (∀ i < pre.length, matchNode pattern ((pre ++ s).drop i) [] done = none) →
      search pattern (pre ++ s) = search pattern s
  | [], _ => rfl
  | c :: pre, none_in => by
    have first : matchNode pattern (c :: (pre ++ s)) [] done = none := none_in 0 (by simp)
    rw [List.cons_append, search_cons, first, Option.none_orElse]
    exact search_append pattern s pre fun i lt => none_in (i + 1) (by simpa using lt)

theorem search_of_match {pattern : Node} {s : List Char} {caps : Captures}
    (found : matchNode pattern s [] done = some caps) : search pattern s = some caps := by
  cases s with
  | nil => exact found
  | cons c s => rw [search_cons, found]; rfl

theorem infix_of_prefix_drop {p pre x : List Char} {c : Char} (absent : c ∉ p) {i : Nat}
    (inside : i ≤ pre.length) (starts : p <+: (pre ++ c :: x).drop i) : p <:+: pre := by
  rw [List.drop_append_of_le_length inside] at starts
  obtain ⟨u, split⟩ := starts
  rcases List.append_eq_append_iff.mp split with ⟨a', longer, -⟩ | ⟨c', rfl, rest⟩
  · exact ((List.prefix_append p a').trans (longer ▸ List.prefix_refl _)).isInfix.trans
      (List.drop_suffix i pre).isInfix
  · cases c' with
    | nil => simpa using (List.drop_suffix i pre).isInfix
    | cons d c' =>
      cases rest
      exact absurd (List.mem_append_right _ (List.mem_cons_self _ _)) absent

end DemeterBench.Re
