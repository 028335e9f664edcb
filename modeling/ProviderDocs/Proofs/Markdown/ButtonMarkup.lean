import ProviderDocs.Proofs.Markdown.Section

/-!
# The markup of buttons

The markup of a button begins with a division that names the button, and it ends on the first line
with a closing tag, which may be indented or follow on the line of the division itself. Of a
subsection all lines outside of such markup should stay. Looking for the closing tag at the front of
a line below the division goes on too far where it stands elsewhere, and text is lost that stands
below the button.
-/

namespace ProviderDocs.Markdown

/-! ## Lines cut at their buttons -/

/-- The line begins the markup of a button. -/
def opensButton (line : String) : Bool := startsWith line "<div" && contains line "oics-button"

/-- A closing tag stands somewhere in the line. -/
def holdsClosing (line : String) : Bool := contains line "</div"

/-- The lines of a button, down to the first one with a closing tag. -/
structure ButtonMarkup where
  body : List String
  closing : String
  opens : ∀ line ∈ (body ++ [closing]).head?, opensButton line = true
  goes_on : ∀ line ∈ body, holdsClosing line = false
  closes : holdsClosing closing = true

def ButtonMarkup.lines (button : ButtonMarkup) : List String := button.body ++ [button.closing]

/-- Lines of text, then buttons with the text below each. -/
structure ButtonCut where
  front : List String
  buttons : List (ButtonMarkup × List String)
  /-- The lines from a button on that is never closed, if there is one. -/
  unclosed : List String
  front_text : ∀ line ∈ front, opensButton line = false
  buttons_text : ∀ button ∈ buttons, ∀ line ∈ button.2, opensButton line = false
  opens : ∀ line ∈ unclosed.head?, opensButton line = true
  goes_on : ∀ line ∈ unclosed, holdsClosing line = false

namespace ButtonCut

def lines (cut : ButtonCut) : List String :=
  cut.front ++ (cut.buttons.flatMap (fun button ↦ button.1.lines ++ button.2) ++ cut.unclosed)

/-- The lines outside of markup. -/
def text (cut : ButtonCut) : List String := cut.front ++ cut.buttons.flatMap (·.2)

/-- Lines are cut at their first button, if they have one, and again behind it. -/
theorem exists_lines_eq (lines : List String) : ∃ cut : ButtonCut, cut.lines = lines := by
  induction hlength : lines.length using Nat.strongRecOn generalizing lines with
  | ind length ih =>
    subst hlength
    obtain ⟨front, rest, rfl, hfront, hopens⟩ :=
      Text.exists_eq_append_of_class (!opensButton ·) lines
    obtain ⟨body, behind, rfl, hbody, hcloses⟩ :=
      Text.exists_eq_append_of_class (!holdsClosing ·) rest
    simp only [Bool.not_eq_true', Bool.not_eq_false'] at hfront hopens hbody hcloses
    cases behind with
    | nil =>
      rw [List.append_nil] at hopens
      exact ⟨⟨front, [], body, hfront, List.forall_mem_nil _, hopens, hbody⟩, by simp [lines]⟩
    | cons closing after =>
      have hlt : after.length < (front ++ (body ++ closing :: after)).length := by
        simp only [List.length_append, List.length_cons]
        omega
      obtain ⟨later, rfl⟩ := ih after.length hlt after rfl
      have hbutton : ∀ line ∈ (body ++ [closing]).head?, opensButton line = true := by
        cases body with
        | nil => exact hopens
        | cons first body => exact hopens
      let button : ButtonMarkup := ⟨body, closing, hbutton, hbody, hcloses closing rfl⟩
      exact ⟨⟨front, (button, later.front) :: later.buttons, later.unclosed, hfront,
        List.forall_mem_cons.mpr ⟨later.front_text, later.buttons_text⟩, later.opens,
        later.goes_on⟩, by simp [lines, ButtonMarkup.lines, button]⟩

end ButtonCut

/-! ## Lines that are left -/

theorem startsWith_closing_eq_false {line : String} (h : holdsClosing line = false) :
    startsWith line "</div" = false := by
  rw [Bool.eq_false_iff, Ne, startsWith_iff]
  rintro ⟨rest, rfl⟩
  rw [holdsClosing, Bool.eq_false_iff, Ne, contains_iff, String.toList_append] at h
  exact h (List.prefix_append ..).isInfix

/-- The line of a division does not begin with a closing tag. -/
theorem startsWith_closing_of_opensButton {line : String} (h : opensButton line = true) :
    startsWith line "</div" = false := by
  obtain ⟨rest, rfl⟩ := startsWith_iff.mp (Bool.and_eq_true_iff.mp h).1
  rw [startsWith, String.toList_append]
  rfl

theorem withoutButtons_text {lines : List String} (h : ∀ line ∈ lines, opensButton line = false)
    (rest : List String) :
    withoutButtons false (lines ++ rest) = lines ++ withoutButtons false rest := by
  induction lines with
  | nil => rfl
  | cons line lines ih =>
    obtain ⟨hline, hlines⟩ := List.forall_mem_cons.mp h
    rw [List.cons_append, withoutButtons, if_neg Bool.false_ne_true, ← opensButton, hline,
      if_neg Bool.false_ne_true, ih hlines, List.cons_append]

/-- Below the line of a division, what does not begin with a closing tag is left out. -/
theorem withoutButtons_body {lines : List String}
    (h : ∀ line ∈ lines, startsWith line "</div" = false) (rest : List String) :
    withoutButtons true (lines ++ rest) = withoutButtons true rest := by
  induction lines with
  | nil => rfl
  | cons line lines ih =>
    obtain ⟨hline, hlines⟩ := List.forall_mem_cons.mp h
    rw [List.cons_append, withoutButtons, if_pos rfl, hline, Bool.not_false, ih hlines]

theorem withoutButtons_opens (inButton : Bool) {line : String} (h : opensButton line = true)
    (rest : List String) :
    withoutButtons inButton (line :: rest) = withoutButtons true rest := by
  rw [withoutButtons, startsWith_closing_of_opensButton h, Bool.not_false, ← opensButton, if_pos h]
  cases inButton with
  | true => rfl
  | false => rfl

/-- No line of a button is left, and behind it everything depends on how its last line begins. -/
theorem withoutButtons_button (inButton : Bool) (button : ButtonMarkup) (rest : List String) :
    withoutButtons inButton (button.lines ++ rest) =
      withoutButtons (!startsWith button.closing "</div") rest := by
  obtain ⟨body, closing, hopens, hbody, hcloses⟩ := button
  cases body with
  | nil =>
    have hclosing := hopens closing rfl
    rw [startsWith_closing_of_opensButton hclosing]
    exact withoutButtons_opens inButton hclosing rest
  | cons first body =>
    have hbody : ∀ line ∈ body, startsWith line "</div" = false := fun line hline ↦
      startsWith_closing_eq_false (hbody line (List.mem_cons_of_mem _ hline))
    rw [ButtonMarkup.lines, List.append_assoc, List.cons_append,
      withoutButtons_opens inButton (hopens first rfl), withoutButtons_body hbody]
    rfl

/-- What is left of some lines depends on those above them only by whether they end in markup. -/
theorem exists_withoutButtons_append (inButton : Bool) (lines rest : List String) :
    ∃ later, withoutButtons inButton (lines ++ rest) =
      withoutButtons inButton lines ++ withoutButtons later rest := by
  induction lines generalizing inButton with
  | nil => exact ⟨inButton, rfl⟩
  | cons line lines ih =>
    rw [List.cons_append, withoutButtons, withoutButtons]
    cases inButton with
    | true => exact ih _
    | false =>
      split
      case isTrue hin => cases hin
      case isFalse =>
        split
        case isTrue => exact ih true
        case isFalse =>
          obtain ⟨later, hlater⟩ := ih false
          exact ⟨later, by rw [hlater, List.cons_append]⟩

/-- In markup at least one line is left out. -/
theorem length_withoutButtons_lt {lines : List String} (hne : lines ≠ []) :
    (withoutButtons true lines).length < lines.length := by
  obtain ⟨line, rest, rfl⟩ := List.exists_cons_of_ne_nil hne
  exact Nat.lt_succ_of_le (withoutButtons_sublist _ rest).length_le

theorem withoutButtons_unclosed (inButton : Bool) {lines : List String}
    (hopens : ∀ line ∈ lines.head?, opensButton line = true)
    (hbody : ∀ line ∈ lines, holdsClosing line = false) :
    withoutButtons inButton lines = [] := by
  cases lines with
  | nil => rfl
  | cons first rest =>
    have hrest : ∀ line ∈ rest, startsWith line "</div" = false := fun line hline ↦
      startsWith_closing_eq_false (hbody line (List.mem_cons_of_mem _ hline))
    have hleft := withoutButtons_body hrest []
    rw [List.append_nil] at hleft
    rw [withoutButtons_opens inButton (hopens first rfl), hleft]
    rfl

/-- The text below a button is safe. -/
def IsSafe (button : ButtonMarkup × List String) : Prop :=
  startsWith button.1.closing "</div" = true ∨ button.2 = []

/-- What is left of buttons and the text below them is text, and it is all of it exactly when the
text below every button is safe. -/
theorem withoutButtons_buttons (inButton : Bool) {buttons : List (ButtonMarkup × List String)}
    (htext : ∀ button ∈ buttons, ∀ line ∈ button.2, opensButton line = false)
    {unclosed : List String} (hopens : ∀ line ∈ unclosed.head?, opensButton line = true)
    (hbody : ∀ line ∈ unclosed, holdsClosing line = false) :
    (withoutButtons inButton (buttons.flatMap (fun button ↦ button.1.lines ++ button.2) ++
        unclosed)).Sublist (buttons.flatMap (·.2)) ∧
      (withoutButtons inButton (buttons.flatMap (fun button ↦ button.1.lines ++ button.2) ++
        unclosed) = buttons.flatMap (·.2) ↔ ∀ button ∈ buttons, IsSafe button) := by
  -- A button changes no text above it, so nothing that was lost comes back.
  induction buttons generalizing inButton with
  | nil =>
    rw [List.flatMap_nil, List.nil_append, withoutButtons_unclosed inButton hopens hbody]
    exact ⟨.slnil, iff_of_true rfl (List.forall_mem_nil _)⟩
  | cons head rest ih =>
    obtain ⟨button, text⟩ := head
    obtain ⟨hhead, hrest⟩ := List.forall_mem_cons.mp htext
    simp only [List.flatMap_cons, List.append_assoc, List.forall_mem_cons, withoutButtons_button]
    cases hclosing : startsWith button.closing "</div" with
    | true =>
      obtain ⟨hsublist, hall⟩ := ih false hrest
      have hsafe : IsSafe (button, text) := .inl hclosing
      rw [Bool.not_true, withoutButtons_text hhead, List.append_cancel_left_eq, hall,
        and_iff_right hsafe]
      exact ⟨hsublist.append_left text, .rfl⟩
    | false =>
      have hclosed : ¬ startsWith button.closing "</div" = true := Bool.eq_false_iff.mp hclosing
      rw [Bool.not_false]
      by_cases hne : text = []
      · obtain ⟨hsublist, hall⟩ := ih true hrest
        have hsafe : IsSafe (button, text) := .inr hne
        rw [hne, List.nil_append, List.nil_append, hall, ← hne, and_iff_right hsafe]
        exact ⟨hsublist, .rfl⟩
      · have hunsafe : ¬ IsSafe (button, text) := not_or.mpr ⟨hclosed, hne⟩
        obtain ⟨later, hlater⟩ := exists_withoutButtons_append true text
          (rest.flatMap (fun button ↦ button.1.lines ++ button.2) ++ unclosed)
        obtain ⟨hsublist, -⟩ := ih later hrest
        have hlost := length_withoutButtons_lt hne
        rw [hlater]
        refine ⟨(withoutButtons_sublist true text).append hsublist, iff_of_false ?_ ?_⟩
        · intro hall
          have hlength := congrArg List.length hall
          have hle := hsublist.length_le
          rw [List.length_append, List.length_append] at hlength
          omega
        · exact fun hsafe ↦ hunsafe hsafe.1

/-- The lines of a subsection can be cut at their buttons. However they are, what is left of them is
text, and it is all of the text exactly when no text stands below a button that is closed anywhere
but at the front of a line. -/
theorem lines_ofLines_eq_text_iff (lines : List String) :
    (∃ cut : ButtonCut, cut.lines = lines) ∧
      ∀ cut : ButtonCut, cut.lines = lines →
        (Subsection.ofLines lines).lines.Sublist cut.text ∧
          ((Subsection.ofLines lines).lines = cut.text ↔
            ∀ button ∈ cut.buttons,
              startsWith button.1.closing "</div" = true ∨ button.2 = []) := by
  refine ⟨ButtonCut.exists_lines_eq lines, ?_⟩
  rintro cut rfl
  obtain ⟨hsublist, hall⟩ :=
    withoutButtons_buttons false cut.buttons_text cut.opens cut.goes_on
  have hlines : (Subsection.ofLines cut.lines).lines = cut.front ++ withoutButtons false
      (cut.buttons.flatMap (fun button ↦ button.1.lines ++ button.2) ++ cut.unclosed) :=
    withoutButtons_text cut.front_text _
  rw [hlines, ButtonCut.text, List.append_cancel_left_eq]
  exact ⟨hsublist.append_left cut.front, hall⟩

/-- A button whose closing tag is indented, and a line of text below it. -/
def indentedButton : ButtonCut where
  front := []
  buttons := [(⟨["<div class=\"oics-button\">", "  <a href=\"x\"></a>"], "  </div>",
    by decide +kernel, by decide +kernel, by decide +kernel⟩, ["Text."])]
  unclosed := []
  front_text := by decide
  buttons_text := by decide +kernel
  opens := by decide
  goes_on := by decide

/-- Text below a button may be lost. -/
theorem not_lines_ofLines_eq_text :
    ¬ ∀ cut : ButtonCut, (Subsection.ofLines cut.lines).lines = cut.text := by
  intro hall
  exact absurd (hall indentedButton) (by decide +kernel)

end ProviderDocs.Markdown
