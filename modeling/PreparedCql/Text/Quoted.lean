import PreparedCql.Text.Basic

/-! Text between single quotes. A quote inside is written twice and everything else stands for
itself, so blanks and markers in a literal are kept as they are. -/

namespace PreparedCql.Text

/-- A quote is written twice, any other character once. -/
def doubleQuotes (text : Text) : Text :=
  text.flatMap fun character => if character = '\'' then ['\'', '\''] else [character]

def quoted (text : Text) : Text := '\'' :: doubleQuotes text ++ ['\'']

/-- A literal holds an even number of quotes, whatever it quotes. -/
theorem count_doubleQuotes (text : Text) :
    (doubleQuotes text).count '\'' = 2 * text.count '\'' := by
  induction text with
  | nil => rfl
  | cons character rest ih =>
      by_cases quote : character = '\''
      · simp only [doubleQuotes, List.flatMap_cons, quote, if_true, List.count_append,
          List.count_cons_self] at ih ⊢
        rw [ih]
        simp only [List.count_nil]
        omega
      · simp only [doubleQuotes, List.flatMap_cons, quote, if_false, List.count_append] at ih ⊢
        rw [ih, List.count_cons_of_ne quote, List.count_cons_of_ne quote, List.count_nil]
        omega

end PreparedCql.Text
