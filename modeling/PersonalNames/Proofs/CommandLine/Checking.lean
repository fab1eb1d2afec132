import Mathlib.Data.List.Basic
import PersonalNames.CommandLine.Run
import PersonalNames.Proofs.Pattern.Listing

/-! # Runs of the command `check`

Where a pattern compiles, the command prints a heading and below it a listing of the tokens.
What it prints is one text; that it can be cut into the lines again is due to no line of it
holding the end of a line (`linesOf_unlines`).  So each token stands on one line, and the
tokens can be read off what is printed (`run_check_tells_tokens`).
-/
namespace PersonalNames
namespace CommandLine

open Text

/-! ## Lines of a text -/

/-- The lines of a text in which each line has its end. -/
def linesOf (s : String) : List String :=
  ((s.toList.splitOn '\n').map String.ofList).dropLast

theorem toList_unlines_cons (line : String) (lines : List String) :
    (unlines (line :: lines)).toList = line.toList ++ '\n' :: (unlines lines).toList := by
  simp [unlines, String.toList_join]

/-- Lines can be told apart in the text that they make up. -/
theorem linesOf_unlines {lines : List String} (h : ∀ line ∈ lines, IsLine line.toList) :
    linesOf (unlines lines) = lines := by
  induction lines with
  | nil => rfl
  | cons line lines ih =>
    obtain ⟨hline, hlines⟩ := List.forall_mem_cons.1 h
    have hend : '\n' ∉ line.toList := fun hmem => hline _ hmem (by decide)
    have hmore : ((unlines lines).toList.splitOn '\n').map String.ofList ≠ [] := by simp
    rw [linesOf, toList_unlines_cons, List.splitOn_append_cons_self_of_not_mem hend, List.map_cons,
      List.dropLast_cons_of_ne_nil hmore, String.ofList_toList]
    exact congrArg (line :: ·) (ih hlines)

/-! ## What is printed -/

/-- The heading of a listing. -/
def heading (source : String) (count : Nat) : String :=
  "Pattern " ++ quoted source ++ " compiles to " ++ toString count ++ " tokens:"

/-- A heading stands on one line, whatever the pattern is. -/
theorem isLine_heading (source : String) (count : Nat) : IsLine (heading source count).toList := by
  have hsource : IsLine ("Pattern " ++ quoted source).toList :=
    isLine_toList_append (by decide) (isLine_quoted source)
  have hcount : IsLine ("Pattern " ++ quoted source ++ " compiles to " ++ toString count).toList :=
    isLine_toList_append (isLine_toList_append hsource (by decide)) (isLine_repr count)
  exact isLine_toList_append hcount (by decide)

/-- The lines that an outcome shows below its heading. -/
def tokenLines (outcome : Outcome) : List String :=
  (linesOf outcome.stdout).tail

theorem runCheck_of_ok {source : String} {pattern : Pattern}
    (h : Pattern.compile source = .ok pattern) :
    runCheck source =
      .ofLines (heading source pattern.tokens.length :: Token.listing 1 pattern.tokens) := by
  rw [runCheck, h]
  rfl

/-- The lines below the heading are those of the listing. -/
theorem tokenLines_runCheck {source : String} {pattern : Pattern}
    (h : Pattern.compile source = .ok pattern) :
    tokenLines (runCheck source) = Token.listing 1 pattern.tokens := by
  have hlines : ∀ line ∈ heading source pattern.tokens.length :: Token.listing 1 pattern.tokens,
      IsLine line.toList :=
    List.forall_mem_cons.2 ⟨isLine_heading _ _, Token.isLine_of_mem_listing⟩
  rw [runCheck_of_ok h, tokenLines, Outcome.ofLines, linesOf_unlines hlines, List.tail_cons]

/-- **What is printed tells the compiled pattern**: below the heading stands one line for each
token of the tree, at any depth, and what a literal holds does not end a line; and two
patterns whose lines are the same compile to the same tokens. -/
theorem run_check_tells_tokens {source source' : String} {pattern pattern' : Pattern}
    (h : Pattern.compile source = .ok pattern) (h' : Pattern.compile source' = .ok pattern') :
    tokenLines (runCheck source) = (Token.nodesOfAll 1 pattern.tokens).map Token.line ∧
      (tokenLines (runCheck source)).length = Token.sizeAll pattern.tokens ∧
      (∀ line ∈ tokenLines (runCheck source), IsLine line.toList) ∧
      (tokenLines (runCheck source) = tokenLines (runCheck source') ↔
        pattern.tokens = pattern'.tokens) := by
  rw [tokenLines_runCheck h, tokenLines_runCheck h']
  exact ⟨Token.listing_eq_map 1 pattern.tokens, Token.length_listing 1 pattern.tokens,
    Token.isLine_of_mem_listing, Token.listing_inj⟩

/-- An empty group in front of a literal line break, and a group around it: two lines each,
and the depth of the second one tells them apart. -/
theorem run_check_tells_tokens_line_break :
    let tokens : List Token := [.group [], .literal "\n"]
    let tokens' : List Token := [.group [.literal "\n"]]
    Pattern.compile "()\\\n" = .ok ⟨"()\\\n", tokens⟩ ∧
      Pattern.compile "(\\\n)" = .ok ⟨"(\\\n)", tokens'⟩ ∧
      tokenLines (runCheck "()\\\n") = ["  group", "  literal \"\\n\""] ∧
      tokenLines (runCheck "(\\\n)") ≠ tokenLines (runCheck "()\\\n") := by
  intro tokens tokens'
  have hscan : Lexeme.scan "()\\\n".toList = [.opening, .closing, .escaped '\n'] := by
    decide +kernel
  have hscan' : Lexeme.scan "(\\\n)".toList = [.opening, .escaped '\n', .closing] := by
    decide +kernel
  have hcompile : Pattern.compile "()\\\n" = .ok ⟨"()\\\n", tokens⟩ := by
    rw [Pattern.compile, hscan]
    rfl
  have hcompile' : Pattern.compile "(\\\n)" = .ok ⟨"(\\\n)", tokens'⟩ := by
    rw [Pattern.compile, hscan']
    rfl
  obtain ⟨hlines, -, -, htell⟩ := run_check_tells_tokens hcompile hcompile'
  refine ⟨hcompile, hcompile', ?_, ?_⟩
  · rw [hlines]
    decide
  · intro hsame
    have htokens := htell.1 hsame.symm
    cases htokens

end CommandLine
end PersonalNames
