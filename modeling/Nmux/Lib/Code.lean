import Mathlib.Data.List.Forall2
import Mathlib.Tactic

/-! Codes that stay apart when they stand one after another. A code is delimited if it ends where it ends,
whatever follows it: then a sequence of codes tells the parts it was made of. Tokens are delimited by what
is no symbol of theirs, and lists by what no code starts with. -/
namespace Nmux.Lib

variable {α β : Type*}

/-- The codes end where they end, whatever of `Next` follows them, and tell the encoded up to `same`. -/
def Delimits (Next : List β → Prop) (encode : α → List β) (same : α → α → Prop) : Prop :=
  ∀ ⦃a b after more⦄, Next after → Next more → encode a ++ after = encode b ++ more →
    same a b ∧ after = more

/-- The text does not start with a symbol. -/
def NoneFirst (symbol : β → Prop) (text : List β) : Prop := ∀ first ∈ text.head?, ¬ symbol first

/-! ### Tokens -/

section Tokens

variable {symbol : β → Prop}

theorem NoneFirst.append {text : List β} (h : NoneFirst symbol text) (hne : text ≠ []) (rest : List β) :
    NoneFirst symbol (text ++ rest) := by
  intro first hfirst
  rw [List.head?_append_of_ne_nil _ hne] at hfirst
  exact h first hfirst

/-- Symbols that are followed by none of them are told from what follows. -/
theorem token_inj {token other after more : List β} (htoken : ∀ value ∈ token, symbol value)
    (hother : ∀ value ∈ other, symbol value) (hafter : NoneFirst symbol after)
    (hmore : NoneFirst symbol more) (h : token ++ after = other ++ more) :
    token = other ∧ after = more := by
  induction token generalizing other with
  | nil =>
    cases other with
    | nil => exact ⟨rfl, h⟩
    | cons first rest =>
      refine absurd (hother first List.mem_cons_self) (hafter first ?_)
      rw [← List.nil_append after, h]
      rfl
  | cons first rest ih =>
    cases other with
    | nil =>
      refine absurd (htoken first List.mem_cons_self) (hmore first ?_)
      rw [← List.nil_append more, ← h]
      rfl
    | cons second others =>
      rw [List.cons_append, List.cons_append] at h
      obtain ⟨rfl, hcut⟩ := List.cons.inj h
      obtain ⟨rfl, hrest⟩ := ih (fun value hvalue => htoken value (List.mem_cons_of_mem _ hvalue))
        (fun value hvalue => hother value (List.mem_cons_of_mem _ hvalue)) hcut
      exact ⟨rfl, hrest⟩

/-- Tokens, each after its label. -/
def labelled : List (List β) → List (List β) → List β
  | label :: labels, token :: tokens => label ++ (token ++ labelled labels tokens)
  | _, _ => []

/-- Tokens between labels that start with no symbol are told from each other. -/
theorem labelled_inj {labels tokens others : List (List β)} {after more : List β}
    (hlabels : ∀ label ∈ labels.tail, label ≠ [] ∧ NoneFirst symbol label)
    (hlength : tokens.length = labels.length) (hlengths : others.length = labels.length)
    (htokens : ∀ token ∈ tokens, ∀ value ∈ token, symbol value)
    (hothers : ∀ token ∈ others, ∀ value ∈ token, symbol value)
    (hafter : NoneFirst symbol after) (hmore : NoneFirst symbol more)
    (h : labelled labels tokens ++ after = labelled labels others ++ more) :
    tokens = others ∧ after = more := by
  induction labels generalizing tokens others with
  | nil =>
    rw [List.length_nil, List.length_eq_zero_iff] at hlength hlengths
    subst hlength hlengths
    exact ⟨rfl, h⟩
  | cons label labels ih =>
    obtain ⟨token, tokens, rfl⟩ := List.exists_of_length_succ tokens hlength
    obtain ⟨other, others, rfl⟩ := List.exists_of_length_succ others hlengths
    have hrest : ∀ {tokens : List (List β)} {text : List β}, tokens.length = labels.length →
        NoneFirst symbol text → NoneFirst symbol (labelled labels tokens ++ text) := by
      intro tokens text hcount htext
      cases labels with
      | nil =>
        rw [List.length_nil, List.length_eq_zero_iff] at hcount
        subst hcount
        exact htext
      | cons next labels =>
        obtain ⟨token, tokens, rfl⟩ := List.exists_of_length_succ tokens hcount
        obtain ⟨hne, hnone⟩ := hlabels next List.mem_cons_self
        rw [labelled, List.append_assoc]
        exact hnone.append hne _
    have hcount := Nat.succ.inj hlength
    have hcounts := Nat.succ.inj hlengths
    simp only [labelled, List.append_assoc] at h
    have hline := List.append_cancel_left h
    obtain ⟨rfl, hlater⟩ := token_inj (htokens token List.mem_cons_self)
      (hothers other List.mem_cons_self) (hrest hcount hafter) (hrest hcounts hmore) hline
    obtain ⟨rfl, hends⟩ := ih (fun label hlabel => hlabels label (List.mem_of_mem_tail hlabel)) hcount hcounts
      (fun token htoken => htokens token (List.mem_cons_of_mem _ htoken))
      (fun token htoken => hothers token (List.mem_cons_of_mem _ htoken)) hlater
    exact ⟨rfl, hends⟩

end Tokens

/-! ### Sequences and lists -/

namespace Delimits

variable {Next : List β → Prop} {encode : α → List β} {same : α → α → Prop}

/-- A code that is read back, whatever follows it. -/
theorem of_read (read : List β → Option (α × List β))
    (h : ∀ a after, Next after → read (encode a ++ after) = some (a, after)) : Delimits Next encode Eq := by
  intro a b after more hafter hmore heq
  have hread := h a after hafter
  rw [heq, h b more hmore] at hread
  obtain ⟨rfl, rfl⟩ := Prod.mk.inj (Option.some.inj hread)
  exact ⟨rfl, rfl⟩

/-- A front of one width in all codes. -/
theorem front (h : Delimits Next encode same) (front : α → List β)
    (hwidth : ∀ a b, (front a).length = (front b).length) :
    Delimits Next (fun a => front a ++ encode a) same := by
  intro a b after more hafter hmore heq
  dsimp only at heq
  rw [List.append_assoc, List.append_assoc] at heq
  exact h hafter hmore (List.append_inj_right heq (hwidth a b))

/-- Codes in a list, followed by what no code starts with. -/
theorem list (h : Delimits Next encode same) (Starts : List β → Prop)
    (hstarts : ∀ a rest, Starts (encode a ++ rest)) (hnext : ∀ text, Starts text → Next text) :
    Delimits (fun after => Next after ∧ ¬ Starts after) (List.flatMap encode) (List.Forall₂ same) := by
  have hfollows : ∀ (items : List α) after, Next after → Next (items.flatMap encode ++ after) := by
    intro items after hafter
    cases items with
    | nil => exact hafter
    | cons item items =>
      rw [List.flatMap_cons, List.append_assoc]
      exact hnext _ (hstarts item _)
  intro items
  induction items with
  | nil =>
    rintro (_ | ⟨item, items⟩) after more ⟨-, hafter⟩ - heq
    · exact ⟨.nil, heq⟩
    · rw [List.flatMap_nil, List.nil_append, List.flatMap_cons, List.append_assoc] at heq
      exact absurd (heq ▸ hstarts item _) hafter
  | cons item items ih =>
    rintro (_ | ⟨item', items'⟩) after more hafter hmore heq
    · rw [List.flatMap_nil, List.nil_append, List.flatMap_cons, List.append_assoc] at heq
      exact absurd (heq ▸ hstarts item _) hmore.2
    · rw [List.flatMap_cons, List.flatMap_cons, List.append_assoc, List.append_assoc] at heq
      obtain ⟨hsame, hrest⟩ := h (hfollows items after hafter.1) (hfollows items' more hmore.1) heq
      obtain ⟨hall, hends⟩ := ih hafter hmore hrest
      exact ⟨.cons hsame hall, hends⟩

/-- A list of codes that are never empty, by itself. -/
theorem flatMap_injective (h : Delimits (fun _ => True) encode Eq) (hne : ∀ a, encode a ≠ []) :
    Function.Injective (List.flatMap encode) := by
  intro items others heq
  have hlist := h.list (· ≠ []) (fun a rest hnil => hne a (List.append_eq_nil_iff.mp hnil).1)
    fun _ _ => trivial
  have hall := (hlist ⟨trivial, not_not_intro rfl⟩ ⟨trivial, not_not_intro rfl⟩
    (congrArg (· ++ []) heq)).1
  rwa [List.forall₂_eq_eq_eq] at hall

end Delimits

end Nmux.Lib
