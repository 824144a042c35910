import Mathlib.Data.List.TakeWhile

/- Cutting a list behind the run of elements with which it begins and that pass a test. -/
namespace DialogueScript

variable {α : Type} {test : α → Bool}

theorem run_ends (test : α → Bool) (text : List α) :
    ∀ c ∈ (text.dropWhile test).head?, test c = false := by
  intro c first
  have stopped := List.head?_dropWhile_not test text
  rwa [Option.mem_def.mp first] at stopped

theorem drop_run (test : α → Bool) (text : List α) :
    text.drop (text.takeWhile test).length = text.dropWhile test := by
  have cut : (text.takeWhile test ++ text.dropWhile test).drop (text.takeWhile test).length =
      text.dropWhile test := List.drop_left
  rwa [List.takeWhile_append_dropWhile] at cut

theorem cut_at_run {run rest : List α} (inside : ∀ c ∈ run, test c = true)
    (ends : ∀ c ∈ rest.head?, test c = false) :
    (run ++ rest).takeWhile test = run ∧ (run ++ rest).dropWhile test = rest := by
  rw [List.takeWhile_append_of_pos inside, List.dropWhile_append_of_pos inside]
  cases rest with
  | nil => simp
  | cons c rest =>
    have stop := ends c rfl
    simp [stop]

theorem takeWhile_before {mark : α} (fails : test mark = false) (front after : List α) :
    (front ++ mark :: after).takeWhile test = front.takeWhile test := by
  induction front with
  | nil => simp [fails]
  | cons c front ih => simp only [List.cons_append, List.takeWhile_cons, ih]

section Marks

variable {mark : Char} {body : List Char}

theorem other_than_mark (absent : mark ∉ body) : ∀ c ∈ body, (c != mark) = true := by
  intro c member
  rw [bne_iff_ne]
  rintro rfl
  exact absent member

theorem cut_at_mark (absent : mark ∉ body) (rest : List Char) :
    (body ++ mark :: rest).takeWhile (· != mark) = body ∧
      (body ++ mark :: rest).dropWhile (· != mark) = mark :: rest :=
  cut_at_run (other_than_mark absent) (by simp)

end Marks

end DialogueScript
