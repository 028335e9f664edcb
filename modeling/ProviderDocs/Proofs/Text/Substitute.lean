import ProviderDocs.Proofs.Text.Search

/-!
# Moving a recognizer over a text

One step of `substitute` keeps a character, where nothing is read, or puts the replacement of what
is read. Two recognizers may move over a text in either order when each leaves the pieces of the
other, and what is put for them, as they are.
-/

namespace ProviderDocs.Text

variable {step? : List Char → Option (List Char × List Char)}

@[simp] theorem substitute_nil : substitute step? [] = [] := by
  rw [substitute]

theorem substitute_cons_of_none {c : Char} {text : List Char} (h : step? (c :: text) = none) :
    substitute step? (c :: text) = c :: substitute step? text := by
  rw [substitute, h]

theorem substitute_of_some {text replacement rest : List Char}
    (h : step? text = some (replacement, rest)) (hlength : rest.length < text.length) :
    substitute step? text = replacement ++ substitute step? rest := by
  cases text with
  | nil => cases hlength
  | cons c text =>
    rw [substitute, h]
    exact dif_pos (Nat.le_of_lt_succ hlength)

/-- Characters at which nothing is read are kept. -/
theorem substitute_append_of_none {front : List Char}
    (h : ∀ c ∈ front, ∀ text, step? (c :: text) = none) (rest : List Char) :
    substitute step? (front ++ rest) = front ++ substitute step? rest := by
  induction front with
  | nil => rfl
  | cons c front ih =>
    obtain ⟨hc, hfront⟩ := List.forall_mem_cons.mp h
    rw [List.cons_append, substitute_cons_of_none (hc _), ih hfront, List.cons_append]

/-- A character that no piece holds parts a text. -/
theorem substitute_append_cons {stop : Char} (hnil : step? [] = none)
    (hread : ∀ front rest, step? (front ++ stop :: rest) =
      (step? front).map fun (replacement, behind) ↦ (replacement, behind ++ stop :: rest))
    (front rest : List Char) :
    substitute step? (front ++ stop :: rest) =
      substitute step? front ++ stop :: substitute step? rest := by
  have hnone {front : List Char} (h : step? front = none) :
      step? (front ++ stop :: rest) = none := by
    rw [hread, h, Option.map_none]
  have hsome {front replacement behind : List Char} (h : step? front = some (replacement, behind)) :
      step? (front ++ stop :: rest) = some (replacement, behind ++ stop :: rest) := by
    rw [hread, h, Option.map_some]
  fun_induction substitute step? front with
  | case1 => exact substitute_cons_of_none (hnone hnil)
  | case2 c front h ih =>
    have hstop := hnone h
    rw [List.cons_append] at hstop ⊢
    rw [substitute_cons_of_none hstop, ih, List.cons_append]
  | case3 c front replacement behind h hlength ih =>
    rw [substitute_of_some (hsome h) (by simp; omega), ih, List.append_assoc]
  | case4 c front replacement behind h hlength ih =>
    have hstop := hsome h
    rw [List.cons_append] at hstop ⊢
    rw [substitute, hstop]
    simp only [ih, List.cons_append]
    exact dif_neg (by simp; omega)

/-! ## Cutting a text -/

/-- What the recognizer reads is a piece at the front of a text, and not an empty one. -/
def ReadsFront (step? : List Char → Option (List Char × List Char)) : Prop :=
  ∀ text replacement rest, step? text = some (replacement, rest) →
    ∃ piece, piece ≠ [] ∧ text = piece ++ rest

theorem ReadsFront.length_lt (h : ReadsFront step?) {text replacement rest : List Char}
    (hsome : step? text = some (replacement, rest)) : rest.length < text.length := by
  obtain ⟨piece, hne, rfl⟩ := h _ _ _ hsome
  have hpos := List.length_pos_iff.mpr hne
  rw [List.length_append]
  omega

theorem ReadsFront.substitute_of_some (h : ReadsFront step?) {text replacement rest : List Char}
    (hsome : step? text = some (replacement, rest)) :
    substitute step? text = replacement ++ substitute step? rest :=
  Text.substitute_of_some hsome (h.length_lt hsome)

/-- A recognizer goes on behind what it reads, and behind a character where it reads nothing. -/
@[elab_as_elim]
theorem ReadsFront.induction (h : ReadsFront step?) {motive : List Char → Prop} (nil : motive [])
    (keep : ∀ c text, step? (c :: text) = none → motive text → motive (c :: text))
    (read : ∀ text replacement rest, step? text = some (replacement, rest) → motive rest →
      motive text) (text : List Char) : motive text := by
  induction hlength : text.length using Nat.strongRecOn generalizing text with
  | ind length ih =>
    subst hlength
    cases hread : step? text with
    | some found => exact read text _ _ hread (ih _ (h.length_lt hread) _ rfl)
    | none =>
      cases text with
      | nil => exact nil
      | cons c text => exact keep c text hread (ih text.length (Nat.lt_succ_self _) text rfl)

/-- What is read are pieces of a kind, each before what may follow it. -/
def Reads (step? : List Char → Option (List Char × List Char))
    (IsPiece : List Char → List Char → Prop) (MayFollow : List Char → Prop) : Prop :=
  ∀ text replacement rest, step? text = some (replacement, rest) ↔
    ∃ piece, IsPiece piece replacement ∧ MayFollow rest ∧ text = piece ++ rest

section Cut

variable {IsPiece : List Char → List Char → Prop} {MayFollow : List Char → Prop}
  (hreads : Reads step? IsPiece MayFollow) {front rest : List Char}
  (hfollow : ∀ behind, behind <:+ front → (MayFollow (behind ++ rest) ↔ MayFollow behind))

include hreads hfollow

/-- A piece is read whatever stands behind a cut that no piece goes over. -/
theorem Reads.step?_append (hpiece : ∀ piece replacement, IsPiece piece replacement →
      piece <+: front ++ rest → piece <+: front) :
    step? (front ++ rest) =
      (step? front).map fun (replacement, behind) ↦ (replacement, behind ++ rest) := by
  cases hread : step? front with
  | some found =>
    obtain ⟨replacement, behind⟩ := found
    obtain ⟨piece, hkind, hbehind, rfl⟩ := (hreads _ _ _).mp hread
    exact (hreads _ _ _).mpr ⟨piece, hkind, (hfollow behind (List.suffix_append ..)).mpr hbehind,
      List.append_assoc ..⟩
  | none =>
    rw [Option.map_none, Option.eq_none_iff_forall_ne_some]
    rintro ⟨replacement, more⟩ hfound
    obtain ⟨piece, hkind, hmore, htext⟩ := (hreads _ _ _).mp hfound
    obtain ⟨behind, rfl⟩ := hpiece piece replacement hkind ⟨more, htext.symm⟩
    rw [List.append_assoc, List.append_cancel_left_eq] at htext
    subst htext
    have hbehind := (hfollow behind (List.suffix_append ..)).mp hmore
    exact Option.some_ne_none _
      (((hreads _ _ _).mpr ⟨piece, hkind, hbehind, rfl⟩).symm.trans hread)

/-- A text may be cut where no piece goes on over the cut. -/
theorem Reads.substitute_append (hne : ∀ piece replacement, IsPiece piece replacement → piece ≠ [])
    (hpiece : ∀ text piece replacement, text <:+ front → text ≠ [] → IsPiece piece replacement →
      piece <+: text ++ rest → piece <+: text) :
    substitute step? (front ++ rest) = substitute step? front ++ substitute step? rest := by
  have hfront : ReadsFront step? := by
    intro text replacement behind hread
    obtain ⟨piece, hkind, -, htext⟩ := (hreads _ _ _).mp hread
    exact ⟨piece, hne piece replacement hkind, htext⟩
  have hstep (text : List Char) (hne : text ≠ []) (hsuffix : text <:+ front) :
      step? (text ++ rest) = (step? text).map fun (replacement, behind) ↦
        (replacement, behind ++ rest) :=
    hreads.step?_append (fun behind hbehind ↦ hfollow behind (hbehind.trans hsuffix))
      fun piece replacement hkind hbegins ↦
        hpiece text piece replacement hsuffix hne hkind hbegins
  clear hpiece hfollow
  induction front using hfront.induction with
  | nil => rw [List.nil_append, substitute_nil, List.nil_append]
  | keep c text hnone ih =>
    have hwhole := hstep (c :: text) (List.cons_ne_nil c text) List.suffix_rfl
    rw [hnone, Option.map_none, List.cons_append] at hwhole
    rw [List.cons_append, substitute_cons_of_none hwhole, substitute_cons_of_none hnone,
      List.cons_append, ih fun more hne hmore ↦
        hstep more hne (hmore.trans (List.suffix_cons c text))]
  | read text replacement behind hsome ih =>
    obtain ⟨piece, hpiece, rfl⟩ := hfront _ _ _ hsome
    have hwhole := hstep (piece ++ behind) (List.append_ne_nil_of_left_ne_nil hpiece _)
      List.suffix_rfl
    rw [hsome, Option.map_some] at hwhole
    rw [hfront.substitute_of_some hwhole, hfront.substitute_of_some hsome, List.append_assoc,
      ih fun more hne hmore ↦ hstep more hne (hmore.trans (List.suffix_append piece behind))]

end Cut

/-- Nothing is read in the front of a text, so it is kept. -/
theorem substitute_append_of_forall_none {front rest : List Char}
    (h : ∀ c text, c :: text <:+ front → step? (c :: text ++ rest) = none) :
    substitute step? (front ++ rest) = front ++ substitute step? rest := by
  induction front with
  | nil => rfl
  | cons c front ih =>
    have hnone : step? (c :: (front ++ rest)) = none := h c front List.suffix_rfl
    rw [List.cons_append, substitute_cons_of_none hnone, List.cons_append,
      ih fun d more hmore ↦ h d more (hmore.trans (List.suffix_cons c front))]

/-- A character at the end of a text with which no piece ends is kept. -/
theorem getLast?_substitute {last : Char}
    (hend : ∀ text replacement rest, step? text = some (replacement, rest) →
      ∃ piece, text = piece ++ rest ∧ piece.getLast? ≠ some last)
    {text : List Char} (h : text.getLast? = some last) :
    (substitute step? text).getLast? = some last := by
  have hcons {c : Char} {text : List Char} (h : (c :: text).getLast? = some last)
      (ih : text.getLast? = some last → (substitute step? text).getLast? = some last) :
      (c :: substitute step? text).getLast? = some last := by
    cases text with
    | nil => rwa [substitute_nil]
    | cons d text =>
      rw [List.getLast?_cons_cons] at h
      rw [List.getLast?_cons, ih h, Option.getD_some]
  fun_induction substitute step? text with
  | case1 => exact h
  | case2 c text hnone ih => exact hcons h ih
  | case3 c text replacement rest hsome hlength ih =>
    obtain ⟨piece, hpiece, hother⟩ := hend _ _ _ hsome
    have hrest : rest.getLast? = some last := by
      rw [hpiece, List.getLast?_append] at h
      cases hlast : rest.getLast? with
      | none => exact absurd (by rwa [hlast, Option.none_or] at h) hother
      | some d => rwa [hlast, Option.some_or] at h
    rw [List.getLast?_append, ih hrest, Option.some_or]
  | case4 c text replacement rest hsome hlength ih => exact hcons h ih

/-- Recognizers that read the same pieces of a text change it alike. -/
theorem substitute_congr {other? : List Char → Option (List Char × List Char)}
    (hreads : ReadsFront step?) {text : List Char} (h : ∀ rest, rest <:+ text →
      step? rest = other? rest) : substitute step? text = substitute other? text := by
  induction text using hreads.induction with
  | nil => rw [substitute_nil, substitute_nil]
  | keep c text hnone ih =>
    have hother := (h _ List.suffix_rfl).symm.trans hnone
    rw [substitute_cons_of_none hnone, substitute_cons_of_none hother,
      ih fun rest hrest ↦ h rest (hrest.trans (List.suffix_cons c text))]
  | read text replacement rest hsome ih =>
    obtain ⟨piece, -, hpiece⟩ := hreads _ _ _ hsome
    have hother := (h _ List.suffix_rfl).symm.trans hsome
    rw [hreads.substitute_of_some hsome, substitute_of_some hother (hreads.length_lt hsome),
      ih fun more hmore ↦ h more (hmore.trans ⟨piece, hpiece.symm⟩)]

/-- The text begins as the changed one does, up to the first character with which something that is
put begins. -/
theorem exists_eq_append_of_substitute {mark : Char}
    (hmark : ∀ text replacement rest, step? text = some (replacement, rest) →
      ∃ more, replacement = mark :: more)
    (hreads : ReadsFront step?) {text front rest : List Char} (hfront : mark ∉ front)
    (h : substitute step? text = front ++ rest) :
    ∃ behind, text = front ++ behind ∧ substitute step? behind = rest := by
  induction front generalizing text with
  | nil => exact ⟨text, rfl, h⟩
  | cons c front ih =>
    obtain ⟨hc, hbehind⟩ := List.ne_and_not_mem_of_not_mem_cons hfront
    cases text with
    | nil => simp at h
    | cons d text =>
      cases hread : step? (d :: text) with
      | none =>
        rw [substitute_cons_of_none hread, List.cons_append] at h
        obtain ⟨rfl, hrest⟩ := List.cons.inj h
        obtain ⟨behind, rfl, heq⟩ := ih hbehind hrest
        exact ⟨behind, rfl, heq⟩
      | some found =>
        obtain ⟨replacement, behind⟩ := found
        obtain ⟨more, rfl⟩ := hmark _ _ _ hread
        rw [hreads.substitute_of_some hread, List.cons_append] at h
        exact absurd (List.cons.inj h).1 hc

/-! ## Two recognizers -/

/-- Where the first recognizer reads a piece of the text, the second one leaves the piece and what
is put for it as they are, and the piece is still read when what follows it is changed. -/
def Spares (first second : List Char → Option (List Char × List Char)) (text : List Char) : Prop :=
  ∀ replacement rest, first text = some (replacement, rest) →
    ∃ piece, piece ≠ [] ∧ text = piece ++ rest ∧
      substitute second (piece ++ rest) = piece ++ substitute second rest ∧
      substitute second (replacement ++ substitute first rest) =
        replacement ++ substitute second (substitute first rest) ∧
      first (piece ++ substitute second rest) = some (replacement, substitute second rest)

section Order

variable {first second : List Char → Option (List Char × List Char)}

theorem Spares.substitute_comm {text replacement rest : List Char} (h : Spares first second text)
    (hsome : first text = some (replacement, rest))
    (hrest : substitute second (substitute first rest) =
      substitute first (substitute second rest)) :
    substitute second (substitute first text) = substitute first (substitute second text) := by
  obtain ⟨piece, hne, rfl, hpiece, hreplacement, hread⟩ := h _ _ hsome
  have hpos := List.length_pos_iff.mpr hne
  calc substitute second (substitute first (piece ++ rest))
    _ = substitute second (replacement ++ substitute first rest) := by
      rw [substitute_of_some hsome (by rw [List.length_append]; omega)]
    _ = replacement ++ substitute second (substitute first rest) := hreplacement
    _ = replacement ++ substitute first (substitute second rest) := by rw [hrest]
    _ = substitute first (piece ++ substitute second rest) := by
      rw [substitute_of_some hread (by rw [List.length_append]; omega)]
    _ = substitute first (substitute second (piece ++ rest)) := by rw [hpiece]

/-- Recognizers that spare each other's pieces, and begin to read nothing more when the other one
has moved over the text, may move over it in either order. -/
theorem substitute_comm {motive : List Char → Prop}
    (hsuffix : ∀ front rest, motive (front ++ rest) → motive rest)
    (hfirst : ∀ text, motive text → Spares first second text)
    (hsecond : ∀ text, motive text → Spares second first text)
    (hneither : ∀ c text, motive (c :: text) → first (c :: text) = none →
      second (c :: text) = none →
        first (c :: substitute second text) = none ∧ second (c :: substitute first text) = none)
    {text : List Char} (h : motive text) :
    substitute second (substitute first text) = substitute first (substitute second text) := by
  induction hlength : text.length using Nat.strongRecOn generalizing text with
  | ind length ih =>
    subst hlength
    have hbehind {piece rest : List Char} (hne : piece ≠ []) (htext : text = piece ++ rest) :
        substitute second (substitute first rest) = substitute first (substitute second rest) := by
      have hpos := List.length_pos_iff.mpr hne
      subst htext
      exact ih rest.length (by rw [List.length_append]; omega) (hsuffix piece rest h) rfl
    cases hread : first text with
    | some found =>
      obtain ⟨piece, hne, htext, -⟩ := hfirst text h _ _ hread
      exact (hfirst text h).substitute_comm hread (hbehind hne htext)
    | none =>
      cases hother : second text with
      | some found =>
        obtain ⟨piece, hne, htext, -⟩ := hsecond text h _ _ hother
        exact ((hsecond text h).substitute_comm hother (hbehind hne htext).symm).symm
      | none =>
        cases text with
        | nil => simp only [substitute_nil]
        | cons c text =>
          obtain ⟨hkept, hkeptOther⟩ := hneither c text h hread hother
          rw [substitute_cons_of_none hread, substitute_cons_of_none hother,
            substitute_cons_of_none hkept, substitute_cons_of_none hkeptOther,
            hbehind (List.cons_ne_nil c []) rfl]

end Order

end ProviderDocs.Text
