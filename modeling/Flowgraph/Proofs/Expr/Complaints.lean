import Flowgraph.Proofs.Expr.Lexing
import Flowgraph.Proofs.Expr.Viability

namespace Flowgraph.Expr

theorem positions_of_scan {text : String} {ts : List Token} (h : Token.scan text = .ok ts) :
    (ts.map (·.position)).Nodup ∧ ∀ t ∈ ts, t.position < text.length := by
  obtain ⟨xs, hxs, rfl⟩ := scan_eq_ok_iff.1 h
  refine ⟨?_, ?_⟩
  · rw [List.map_map]
    exact List.pairwise_map.2 (hxs.apart.imp fun h ↦ h.1.ne)
  · rw [List.forall_mem_map, ← String.length_toList]
    exact fun x hx ↦ hxs.lt_length hx

/-- Tokens at different positions are told apart by these. -/
theorem append_inj_of_position {before after before' after' : List Token} {t t' : Token}
    (hnodup : ((before ++ t :: after).map (·.position)).Nodup)
    (h : before ++ t :: after = before' ++ t' :: after') (ht : t.position = t'.position) :
    before = before' ∧ t = t' := by
  have hlength : before.length = before'.length := by
    refine (List.getElem?_inj (i := before.length) (by simp) hnodup).1 ?_
    conv_rhs => rw [h]
    simp [ht]
  obtain ⟨hbefore, htail⟩ := List.append_inj h hlength
  exact ⟨hbefore, (List.cons_eq_cons.1 htail).1⟩

/-- The position of a complaint about a text with tokens is that of a token or the end. What stands
before it can be completed to a row that the parser accepts, but no such row begins with it and the
token there; at the end, what there is is no such row. -/
theorem parse_error_first_wrong {text : String} {tokens : List Token} {err : SyntaxError}
    (hscan : Token.scan text = .ok tokens) (hparse : parse text = .error err) (p : ℕ) :
    (err.position = text.length ∨ ∃ t ∈ tokens, t.position = err.position) ∧
    (∀ before t after, tokens = before ++ t :: after → t.position = err.position →
      (∃ more, Accepts p (before ++ more)) ∧ ∀ more, ¬ Accepts p (before ++ t :: more)) ∧
    (err.position = text.length → (∃ more, Accepts p (tokens ++ more)) ∧ ¬ Accepts p tokens) := by
  rw [parse_of_scan hscan] at hparse
  obtain ⟨before, t, after, hts, hposition, -, hviable, hno⟩ := parseTokens_error_of_end hparse
  obtain ⟨hnodup, hinside⟩ := positions_of_scan hscan
  obtain rfl | ⟨after, x, rfl⟩ := List.eq_nil_or_concat' after
  · obtain ⟨rfl, ht⟩ := List.append_inj' hts rfl
    obtain rfl := List.singleton_inj.1 ht
    refine ⟨.inl hposition, fun front u rest htokens hu ↦ ?_, fun _ ↦ ⟨hviable.accepts p, ?_⟩⟩
    · have hlt := hinside u (htokens ▸ by simp)
      exact absurd (hu.trans hposition) hlt.ne
    · exact fun ⟨e, he⟩ ↦ hno ⟨.eof, p⟩ [] e rfl he
  · rw [← List.cons_append, ← List.append_assoc] at hts
    obtain ⟨rfl, -⟩ := List.append_inj' hts rfl
    have hlt := hinside t (by simp)
    refine ⟨.inr ⟨t, by simp, hposition.symm⟩, fun front u rest htokens hu ↦ ?_, fun hend ↦ ?_⟩
    · obtain ⟨rfl, rfl⟩ := append_inj_of_position hnodup htokens (hposition.symm.trans hu.symm)
      exact ⟨hviable.accepts p, fun more ⟨e, he⟩ ↦ hno t _ e rfl (by simpa using he)⟩
    · omega

/-- Two arguments of a call with no comma between them. -/
theorem parse_error_first_wrong_call :
    Token.scan "f(a b)" = .ok [⟨.identifier "f", 0⟩, ⟨.mark .openParen, 1⟩, ⟨.identifier "a", 2⟩,
      ⟨.identifier "b", 4⟩, ⟨.mark .closeParen, 5⟩] ∧
    parse "f(a b)" = .error ⟨.expected .closeArguments (.identifier "b"), 4⟩ ∧
    (∃ more, Accepts 6 ([⟨.identifier "f", 0⟩, ⟨.mark .openParen, 1⟩, ⟨.identifier "a", 2⟩] ++ more)) ∧
    ∀ more, ¬ Accepts 6 ([⟨.identifier "f", 0⟩, ⟨.mark .openParen, 1⟩, ⟨.identifier "a", 2⟩] ++
      ⟨.identifier "b", 4⟩ :: more) := by
  have hscan : Token.scan "f(a b)" = .ok [⟨.identifier "f", 0⟩, ⟨.mark .openParen, 1⟩,
      ⟨.identifier "a", 2⟩, ⟨.identifier "b", 4⟩, ⟨.mark .closeParen, 5⟩] := by cbv
  have hparse : parse "f(a b)" =
      .error ⟨.expected .closeArguments (.identifier "b"), 4⟩ := by cbv
  exact ⟨hscan, hparse, (parse_error_first_wrong hscan hparse 6).2.1 _ _ _ rfl rfl⟩

end Flowgraph.Expr
