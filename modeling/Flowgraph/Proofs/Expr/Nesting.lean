import Flowgraph.Expr.Eval
import Flowgraph.Proofs.Expr.Writing

namespace Flowgraph.Expr

theorem le_depths (ts : List Token) (now greatest : ℕ) : greatest ≤ depths now greatest ts := by
  fun_induction depths now greatest ts with
  | case1 => exact le_rfl
  | case2 | case3 | case4 => exact (Nat.le_max_left _ _).trans ‹_›
  | _ => assumption

/-- Brackets that are opened one right behind the other are all open at once. -/
theorem add_le_depths {ts : List Token} {ls : List Lexeme} {now greatest n : ℕ}
    (hnow : now ≤ greatest)
    (h : ts.map (·.lexeme) = List.replicate n (.mark .openParen) ++ ls) :
    now + n ≤ depths now greatest ts := by
  induction n generalizing ts now greatest with
  | zero => exact hnow.trans (le_depths ts now greatest)
  | succ n ih =>
    rw [List.replicate_succ, List.cons_append, List.map_eq_cons_iff] at h
    obtain ⟨t, ts, rfl, ht, hts⟩ := h
    have hdepth := ih (Nat.le_max_right greatest (now + 1)) hts
    unfold depths
    rw [ht]
    dsimp only
    omega

def parenthesized : ℕ → List Char
  | 0 => ['1']
  | n + 1 => '(' :: (parenthesized n ++ [')'])

theorem exists_writes_parenthesized (n : ℕ) :
    ∃ ls, Writes (parenthesized n) (List.replicate n (.mark .openParen) ++ ls) ∧
      Derives (List.replicate n (.mark .openParen) ++ ls) (.literal (.int 1)) := by
  induction n with
  | zero =>
    have hone : 1 < 10 ^ Number.longestInteger := Nat.one_lt_pow (by decide) (by decide)
    exact ⟨_, .one (spelling_numeral 1), .primary (.number (numberValue?_numeral hone))⟩
  | succ n ih =>
    obtain ⟨ls, hw, hd⟩ := ih
    refine ⟨ls ++ [.mark .closeParen], ?_, ?_⟩
    · have h := hw.group .nil
      rwa [List.append_assoc] at h
    · have h := Derives.primary (.group hd)
      rwa [List.append_assoc] at h

theorem parseWithin_parenthesized {room n : ℕ} (h : room < n) :
    parseWithin room (String.ofList (parenthesized n)) = .error .tooDeep := by
  obtain ⟨ls, hw, hd⟩ := exists_writes_parenthesized n
  obtain ⟨ts, hts, hls⟩ := hw.exists_scan
  have hdepth := add_le_depths (Nat.zero_le 0) hls
  rw [Nat.zero_add] at hdepth
  rw [← hls] at hd
  have hparse := (parse_of_scan hts).trans (parseTokens_of_derives hd rfl)
  rw [parseWithin_of_parse hts hparse]
  exact if_pos (h.trans_le hdepth)

theorem evalText_parenthesized {runtime : Runtime} {n : ℕ} (h : runtime.brackets < n) (s : State) :
    evalText runtime s (String.ofList (parenthesized n)) = (.error .tooDeep, []) := by
  unfold evalText
  rw [parseWithin_parenthesized h]

end Flowgraph.Expr
