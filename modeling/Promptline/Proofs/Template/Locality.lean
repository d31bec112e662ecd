import Promptline.Template.Item

/-!
# Locality of actions

An action or a comment that is closed is read in the same way whatever follows it.  The searches
look ahead only as far as a character that the text has before its end, so nothing behind the
closing delimiter matters.
-/

namespace Promptline

namespace Text

variable {p : Char → Bool} {mark : Char} {cs : List Char}

theorem mem_of_mem_cons {c : Char} (member : mark ∈ c :: cs) (inside : p c = true)
    (other : p mark = false) : mark ∈ cs := by
  refine List.mem_of_ne_of_mem ?_ member
  rintro rfl
  simp [inside] at other

theorem extent_append_of_mem (member : mark ∈ cs) (other : p mark = false) (rest : List Char) :
    extent p (cs ++ rest) = extent p cs := by
  induction cs with
  | nil => contradiction
  | cons c cs ih =>
      cases outside : p c with
      | false => simp [extent, outside]
      | true =>
          have same := ih (mem_of_mem_cons member outside other)
          simp only [extent] at same
          simp [extent, outside, same]

theorem mem_drop_extent (member : mark ∈ cs) (other : p mark = false) :
    mark ∈ cs.drop (extent p cs) := by
  induction cs with
  | nil => contradiction
  | cons c cs ih =>
      cases outside : p c with
      | false => simpa [extent, outside] using member
      | true => simpa [extent, outside] using ih (mem_of_mem_cons member outside other)

theorem drop_extent_append_of_mem (member : mark ∈ cs) (other : p mark = false)
    (rest : List Char) :
    (cs ++ rest).drop (extent p (cs ++ rest)) = cs.drop (extent p cs) ++ rest := by
  rw [extent_append_of_mem member other, List.drop_append_of_le_length (extent_le_length p cs)]

theorem startsWith_append_of_mem {lead : List Char} (member : mark ∈ cs) (other : mark ∉ lead)
    (rest : List Char) : startsWith lead (cs ++ rest) = startsWith lead cs := by
  induction lead generalizing cs with
  | nil => rfl
  | cons l lead ih =>
      cases cs with
      | nil => contradiction
      | cons c cs =>
          by_cases same : l = c
          · have apart : mark ≠ c := by
              rintro rfl
              simp [same] at other
            have later := List.mem_of_ne_of_mem apart member
            simpa [startsWith, afterPrefix?, same] using
              ih later fun listed => other (List.mem_cons_of_mem _ listed)
          · simp [startsWith, afterPrefix?, same]

theorem mem_of_startsWith {lead : List Char} (starts : startsWith lead cs = true)
    (listed : mark ∈ lead) : mark ∈ cs := by
  obtain ⟨rest, found⟩ := Option.isSome_iff_exists.mp starts
  rw [eq_append_of_afterPrefix? found]
  exact List.mem_append_left _ listed

theorem length_le_of_startsWith {lead : List Char} (starts : startsWith lead cs = true) :
    lead.length ≤ cs.length := by
  obtain ⟨rest, found⟩ := Option.isSome_iff_exists.mp starts
  rw [eq_append_of_afterPrefix? found, List.length_append]
  exact Nat.le_add_right _ _

theorem startsWith_append {lead : List Char} (starts : startsWith lead cs = true)
    (rest : List Char) : startsWith lead (cs ++ rest) = true := by
  obtain ⟨tail, found⟩ := Option.isSome_iff_exists.mp starts
  rw [eq_append_of_afterPrefix? found, List.append_assoc, startsWith, afterPrefix?_append]
  rfl

end Text

namespace Template

open Text

theorem commentOpening?_append {cs : List Char} (closed : '}' ∈ cs) (rest : List Char) :
    commentOpening? (cs ++ rest) = commentOpening? cs := by
  cases cs with
  | nil => contradiction
  | cons c cs =>
      by_cases slash : c = '/'
      · subst slash
        cases cs with
        | nil => simp at closed
        | cons d cs => by_cases star : d = '*' <;> simp [commentOpening?, star]
      · by_cases minus : c = '-'
        · subst minus
          have later : '}' ∈ cs := by simpa using closed
          have blank : isBlank '}' = false := by decide
          rw [List.cons_append, commentOpening?, commentOpening?,
            drop_extent_append_of_mem later blank, extent_append_of_mem later blank,
            startsWith_append_of_mem (mem_drop_extent later blank) (by decide)]
        · simp [commentOpening?, slash, minus]

theorem commentClosing?_append_of_some {cs : List Char} {length : Nat}
    (closes : commentClosing? cs = some length) (rest : List Char) :
    commentClosing? (cs ++ rest) = some length := by
  unfold commentClosing? at closes
  split at closes
  · next cs =>
      simp only at closes
      rw [List.cons_append, List.cons_append, commentClosing?]
      split at closes
      · next plain => simpa [startsWith_append plain rest] using closes
      · next plain =>
          split at closes
          · next marked =>
              obtain ⟨positive, starts⟩ := marked
              have blank : isBlank '-' = false := by decide
              have member : '-' ∈ cs := List.mem_of_mem_drop (mem_of_startsWith starts (by decide))
              have other : startsWith ['}', '}'] (cs ++ rest) = startsWith ['}', '}'] cs :=
                startsWith_append_of_mem member (by decide) rest
              rw [other, drop_extent_append_of_mem member blank, extent_append_of_mem member blank,
                startsWith_append starts rest]
              simpa [plain, positive] using closes
          · contradiction
  · contradiction

/-- Whether a comment is closed shows before the next star. -/
theorem commentClosing?_append_of_mem {c : Char} {cs : List Char} (starred : '*' ∈ cs)
    (rest : List Char) : commentClosing? (c :: cs ++ rest) = commentClosing? (c :: cs) := by
  cases cs with
  | nil => contradiction
  | cons d cs =>
      by_cases closing : c = '*' ∧ d = '/'
      · obtain ⟨rfl, rfl⟩ := closing
        have member : '*' ∈ cs := by simpa using starred
        have blank : isBlank '*' = false := by decide
        rw [List.cons_append, List.cons_append, commentClosing?, commentClosing?,
          startsWith_append_of_mem member (by decide), drop_extent_append_of_mem member blank,
          extent_append_of_mem member blank,
          startsWith_append_of_mem (mem_drop_extent member blank) (by decide)]
      · have unclosed : ∀ rest, commentClosing? (c :: d :: rest) = none := by
          intro rest
          refine commentClosing?.eq_2 _ fun more same => closing ?_
          simp only [List.cons.injEq] at same
          exact ⟨same.1, same.2.1⟩
        rw [List.cons_append, List.cons_append, unclosed, unclosed]

theorem commentClosing?_bounds {cs : List Char} {length : Nat}
    (closes : commentClosing? cs = some length) :
    length ≤ cs.length ∧ '*' ∈ cs ∧ '}' ∈ cs := by
  unfold commentClosing? at closes
  split at closes
  · next cs =>
      simp only at closes
      split at closes
      · next plain =>
          have bound := length_le_of_startsWith plain
          have member : '}' ∈ cs := mem_of_startsWith plain (by decide)
          simp only [Option.some.injEq] at closes
          simp only [List.length_cons, List.length_nil] at bound ⊢
          exact ⟨by omega, by simp, by simp [member]⟩
      · split at closes
        · next marked =>
            have bound := length_le_of_startsWith marked.2
            have member : '}' ∈ cs :=
              List.mem_of_mem_drop (mem_of_startsWith marked.2 (by decide))
            simp only [Option.some.injEq] at closes
            simp only [List.length_cons, List.length_nil, List.length_drop] at bound ⊢
            exact ⟨by omega, by simp, by simp [member]⟩
        · contradiction
  · contradiction

theorem commentLength?_bounds {cs : List Char} {length : Nat}
    (closed : commentLength? cs = some length) :
    length ≤ cs.length ∧ '*' ∈ cs ∧ '}' ∈ cs := by
  induction cs generalizing length with
  | nil => simp [commentLength?] at closed
  | cons c cs ih =>
      rw [commentLength?] at closed
      split at closed
      · next here =>
          cases closed
          exact commentClosing?_bounds here
      · obtain ⟨before, later, rfl⟩ := Option.map_eq_some_iff.mp closed
        obtain ⟨bound, star, brace⟩ := ih later
        exact ⟨by simpa using bound, List.mem_cons_of_mem _ star, List.mem_cons_of_mem _ brace⟩

theorem commentLength?_append {cs : List Char} {length : Nat}
    (closed : commentLength? cs = some length) (rest : List Char) :
    commentLength? (cs ++ rest) = some length := by
  induction cs generalizing length with
  | nil => simp [commentLength?] at closed
  | cons c cs ih =>
      rw [commentLength?] at closed
      split at closed
      · next here =>
          have same := commentClosing?_append_of_some here rest
          rw [List.cons_append] at same ⊢
          rw [commentLength?, same]
          exact closed
      · next unclosed =>
          obtain ⟨before, later, rfl⟩ := Option.map_eq_some_iff.mp closed
          have same := commentClosing?_append_of_mem (c := c) (commentLength?_bounds later).2.1 rest
          rw [List.cons_append] at same ⊢
          rw [commentLength?, same, unclosed, ih later]
          rfl

theorem insideLength?_bounds {quote : Option Char} {cs : List Char} {length : Nat}
    (closed : insideLength? quote cs = some length) :
    length + 2 ≤ cs.length ∧ '}' ∈ cs := by
  fun_induction insideLength? quote cs generalizing length with
  | case1 => contradiction
  | case2 cs =>
      cases closed
      simp
  | case3 c cs _ ih =>
      obtain ⟨before, later, rfl⟩ := Option.map_eq_some_iff.mp closed
      obtain ⟨bound, brace⟩ := ih later
      exact ⟨by simp only [List.length_cons]; omega, List.mem_cons_of_mem _ brace⟩
  | case4 c cs ih =>
      obtain ⟨before, later, rfl⟩ := Option.map_eq_some_iff.mp closed
      obtain ⟨bound, brace⟩ := ih later
      exact ⟨by simp only [List.length_cons]; omega, by simp [brace]⟩
  | case5 mark c cs _ ih =>
      obtain ⟨before, later, rfl⟩ := Option.map_eq_some_iff.mp closed
      obtain ⟨bound, brace⟩ := ih later
      exact ⟨by simp only [List.length_cons]; omega, List.mem_cons_of_mem _ brace⟩

theorem insideLength?_append {quote : Option Char} {cs : List Char} {length : Nat}
    (closed : insideLength? quote cs = some length) (rest : List Char) :
    insideLength? quote (cs ++ rest) = some length := by
  fun_induction insideLength? quote cs generalizing length with
  | case1 => contradiction
  | case2 cs => simpa [insideLength?] using closed
  | case3 c cs unclosed ih =>
      obtain ⟨before, later, rfl⟩ := Option.map_eq_some_iff.mp closed
      have longer : ∀ more, c = '}' → cs ++ rest = '}' :: more → False := by
        intro more brace same
        cases cs with
        | nil => simp [insideLength?] at later
        | cons d cs =>
            cases same
            exact unclosed cs brace rfl
      rw [List.cons_append, insideLength?.eq_3 _ _ longer, ih later]
      rfl
  | case4 c cs ih =>
      obtain ⟨before, later, rfl⟩ := Option.map_eq_some_iff.mp closed
      rw [List.cons_append, List.cons_append, insideLength?, ih later]
      rfl
  | case5 mark c cs unescaped ih =>
      obtain ⟨before, later, rfl⟩ := Option.map_eq_some_iff.mp closed
      have longer : ∀ d more, mark = '"' → c = '\\' → cs ++ rest = d :: more → False := by
        intro d more quoted escape same
        cases cs with
        | nil => simp [insideLength?] at later
        | cons d cs => exact unescaped d cs quoted escape rfl
      rw [List.cons_append, insideLength?.eq_5 _ _ _ longer, ih later]
      rfl

theorem scanComment_eq_ok_iff {start opening : Nat} {cs : List Char} {action : Action} :
    scanComment start opening cs = .ok action ↔
      ∃ length, commentLength? (cs.drop (2 + opening)) = some length ∧
        action = {
          source := cs.take (2 + opening + length), body := [], start := start, comment := true
          trimLeft := startsWith ['{', '{', '-'] (cs.take (2 + opening + length))
          trimRight := startsWith ['}', '}', '-'] (cs.take (2 + opening + length)).reverse } := by
  rw [scanComment]
  split
  · next unclosed => simp [unclosed]
  · next closed => simp [closed, eq_comm]

/-- A closed action is read from the front of a text, whatever follows the text. -/
theorem scanAction_append {start : Nat} {cs : List Char} {action : Action}
    (read : scanAction start cs = .ok action) (rest : List Char) :
    scanAction start (cs ++ rest) = .ok action ∧ 0 < action.source.length ∧
      action.source.length ≤ cs.length := by
  rw [scanAction] at read
  split at read
  · next opening opened =>
      obtain ⟨length, closed, rfl⟩ := scanComment_eq_ok_iff.mp read
      obtain ⟨bound, -, brace⟩ := commentLength?_bounds closed
      have nonempty := List.length_pos_of_mem brace
      rw [List.length_drop] at bound nonempty
      have inner : '}' ∈ cs.drop 2 := by
        rw [← List.drop_drop] at brace
        exact List.mem_of_mem_drop brace
      refine ⟨?_, ?_, ?_⟩
      · rw [scanAction, List.drop_append_of_le_length (by omega)]
        simp only [commentOpening?_append inner, opened]
        rw [scanComment_eq_ok_iff]
        refine ⟨length, ?_, ?_⟩
        · rw [List.drop_append_of_le_length (by omega)]
          exact commentLength?_append closed rest
        · rw [List.take_append_of_le_length (by omega)]
      · rw [List.length_take]
        omega
      · rw [List.length_take]
        omega
  · next opened =>
      split at read
      · contradiction
      · next length closed =>
          obtain ⟨bound, brace⟩ := insideLength?_bounds closed
          rw [List.length_drop] at bound
          cases read
          refine ⟨?_, ?_, ?_⟩
          · rw [scanAction, List.drop_append_of_le_length (by omega)]
            simp only [commentOpening?_append brace, opened, insideLength?_append closed]
            rw [List.take_append_of_le_length (by omega), List.take_append_of_le_length
              (by rw [List.length_drop]; omega)]
          · simp only [actionOf, List.length_take]
            omega
          · simp only [actionOf, List.length_take]
            omega

end Template

end Promptline
