import StarterCode.Emission
import StarterCode.Problem.Reader
import StarterCode.Proofs.Emission.Code
import StarterCode.Proofs.Result

/-!
# The name of a problem in a comment

A problem may have any name, and starter code carries it in a comment. `commentText` keeps the name
on one line, whatever it holds, and changes nothing at its end. For the line comment of C++ the
second fact matters as much as the first: a line that ends in a backslash is continued by the next
one. So the comment in the first line of a stub or a program ends with that line, unless the name
ends in a backslash, and then it takes the second line in.
-/

set_option autoImplicit false

namespace StarterCode

/-! ## What becomes of a name -/

theorem toList_commentText (name : String) : (commentText name).toList =
    (openStars name.toList).map fun c => if c = '\n' ∨ c = '\r' then ' ' else c :=
  String.toList_ofList

/-- No line ends in the name of a problem. -/
theorem not_mem_commentText {c : Char} (hc : c = '\n' ∨ c = '\r') (name : String) :
    c ∉ (commentText name).toList := by
  intro hmem
  rw [toList_commentText] at hmem
  obtain ⟨d, -, heq⟩ := List.mem_map.mp hmem
  by_cases hend : d = '\n' ∨ d = '\r'
  · rw [if_pos hend] at heq
    subst heq
    exact absurd hc (by decide)
  · rw [if_neg hend] at heq
    exact hend (heq ▸ hc)

/-- Blanks are put between two characters, so the last one stays the last. -/
theorem getLast?_openStars (text : List Char) : (openStars text).getLast? = text.getLast? := by
  fun_induction openStars text with
  | case1 => rfl
  | case2 c => rfl
  | case3 c d rest hsign ih =>
    obtain ⟨rfl, rfl⟩ := hsign
    simp only [List.getLast?_cons, ih, Option.getD_some]
  | case4 c d rest hother ih =>
    rw [List.getLast?_cons, ih]
    simp only [List.getLast?_cons, Option.getD_some]

/-- The text of a comment ends in a backslash when the name does. -/
theorem getLast?_commentText (name : String) :
    (commentText name).toList.getLast? = some '\\' ↔ name.toList.getLast? = some '\\' := by
  rw [toList_commentText, List.getLast?_map, getLast?_openStars, Option.map_eq_some_iff]
  constructor
  · rintro ⟨c, hlast, hc⟩
    by_cases hend : c = '\n' ∨ c = '\r'
    · rw [if_pos hend] at hc
      exact absurd hc (by decide)
    · rw [if_neg hend] at hc
      rw [hlast, hc]
  · intro hlast
    exact ⟨'\\', hlast, by decide⟩

/-! ## The first line in C++ -/

/-- Stubs and programs begin with the comment that names the problem. -/
theorem Cpp.head?_eq_titleLine {problem : Problem} {code : Code}
    (h : problem.emit .cpp = .ok code ∨
      ∃ laidOut : LaidOutProblem, laidOut.problem = problem ∧ laidOut.emit .cpp = .ok code) :
    ∃ rest, code = titleLine problem.name :: rest := by
  rcases h with hstub | ⟨laidOut, rfl, hprogram⟩
  · obtain ⟨header, -, hcode⟩ := bind_eq_ok.mp hstub
    cases hcode
    exact ⟨_, rfl⟩
  · obtain ⟨header, -, hcode⟩ := bind_eq_ok.mp hprogram
    cases hcode
    exact ⟨_, rfl⟩

/-- **The comment in the first line.** Every stub and every program in C++ begins with a line
comment, in which neither a line feed nor a carriage return occurs. It ends in a backslash exactly
when the name of the problem does; otherwise it ends with the first line, and the other lines are
code. -/
theorem exists_title_comment {problem : Problem} {code : Code}
    (h : problem.emit .cpp = .ok code ∨
      ∃ laidOut : LaidOutProblem, laidOut.problem = problem ∧ laidOut.emit .cpp = .ok code) :
    ∃ comment, code.text.toList =
        "//".toList ++ comment ++ '\n' :: (Code.text code.tail).toList ∧
      '\n' ∉ comment ∧ '\r' ∉ comment ∧
      (comment.getLast? = some '\\' ↔ problem.name.toList.getLast? = some '\\') := by
  obtain ⟨rest, rfl⟩ := Cpp.head?_eq_titleLine h
  have hfeed := not_mem_commentText (.inl rfl) problem.name
  have hreturn := not_mem_commentText (.inr rfl) problem.name
  refine ⟨' ' :: (commentText problem.name).toList, ?_, ?_, ?_, ?_⟩
  · rw [Code.text_cons, Cpp.titleLine]
    simp
  · simp [hfeed]
  · simp [hreturn]
  · rw [← getLast?_commentText]
    cases hlast : (commentText problem.name).toList.getLast? with
    | none => simp [List.getLast?_cons, hlast]
    | some c => simp [List.getLast?_cons, hlast]

/-- A problem with a name of two lines, in which a block comment would end. -/
def brokenProblem : Problem :=
  ⟨"a*/\nb", "f", [], .integer, "result"⟩

theorem exists_title_comment_broken :
    ∃ code comment, brokenProblem.emit .cpp = .ok code ∧
      code.text.toList = "//".toList ++ comment ++ '\n' :: (Code.text code.tail).toList ∧
      '\n' ∉ comment ∧ '\r' ∉ comment ∧ comment.getLast? ≠ some '\\' := by
  have hcode : brokenProblem.emit .cpp = .ok
      ["// a* / b", "int f() \x7b", "    // Implementation goes here", "    return \x7b\x7d;",
        "\x7d"] :=
    eq_ok_of_toOption (by decide +kernel)
  obtain ⟨comment, htext, hfeed, hreturn, hlast⟩ := exists_title_comment (.inl hcode)
  exact ⟨_, comment, hcode, htext, hfeed, hreturn, mt hlast.mp (by decide)⟩

/-- A document for a problem whose name ends in a backslash. -/
def rootDocument : String :=
  "Problem Name: \"C:\\\"\nFunction Name: f\nInput Field: a int\nOutput Field: int"

/-- The problem of that document. -/
def rootProblem : Problem :=
  ⟨"C:\\", "f", [⟨"a", .integer, 0⟩], .integer, "result"⟩

/-- A comment may be continued: that of this stub ends in a backslash, so the head of the function
in the second line belongs to it. -/
theorem exists_continued_comment :
    Problem.parse rootDocument = .ok rootProblem ∧
      ∃ code, rootProblem.emit .cpp = .ok code ∧ code[1]? = some "int f(int a) \x7b" ∧
        ∀ comment rest, code.text.toList = "//".toList ++ comment ++ '\n' :: rest →
          '\n' ∉ comment → comment.getLast? = some '\\' := by
  refine ⟨eq_ok_of_toOption (by decide +kernel),
    ["// C:\\", "int f(int a) \x7b", "    // Implementation goes here", "    return \x7b\x7d;",
      "\x7d"], eq_ok_of_toOption (by decide +kernel), rfl, ?_⟩
  intro comment rest htext hfeed
  -- the first line is what stands in front of the first line feed
  have hline : "//".toList ++ comment = "// C:\\".toList := by
    have hall : ∀ c ∈ "//".toList ++ comment, (c != '\n') = true := by
      intro c hc
      rw [bne_iff_ne]
      rintro rfl
      exact hfeed (by simpa using hc)
    have htake := congrArg (List.takeWhile (· != '\n')) htext
    rw [List.takeWhile_append_of_pos hall] at htake
    simpa [Code.text] using htake.symm
  have hcomment : comment = " C:\\".toList := by simpa using hline
  rw [hcomment]
  decide

end StarterCode
