/-!
# Line ends

Files are written with line feeds, carriage returns or both; read as text,
every line ends in a line feed.
-/

namespace VestingContract

/-- Every line end of a text as a single line feed. -/
def unifyNewlines : List Char → List Char
  | [] => []
  | '\r' :: '\n' :: rest => '\n' :: unifyNewlines rest
  | '\r' :: rest => '\n' :: unifyNewlines rest
  | char :: rest => char :: unifyNewlines rest

/-- No carriage return is left. -/
theorem not_mem_unifyNewlines (chars : List Char) :
    '\r' ∉ unifyNewlines chars := by
  fun_induction unifyNewlines chars with
  | case1 => simp
  | case2 rest inductionHypothesis => simpa using inductionHypothesis
  | case3 rest _ inductionHypothesis => simpa using inductionHypothesis
  | case4 char rest _ notReturn inductionHypothesis =>
      simp only [List.mem_cons, not_or]
      exact ⟨fun equal => notReturn equal.symm, inductionHypothesis⟩

end VestingContract
