import Mathlib
import Regenesis.Store.Locator

/-!
# Proofs.Store.Locator — the option behind a name

A store is opened by its name with an option for reading behind it. In a name without question marks
and hash signs nothing ends the path before that option: percent signs stand for bytes that separate
nothing, and none takes up the question mark. So the option is the only one, and the store is opened
for reading: `mode_of_readOnly`.
-/

namespace Regenesis

theorem Octets.ofText_append (s t : String) : ofText (s ++ t) = ofText s ++ ofText t := by
  simp [ofText]

namespace Locator

/-- Whether a byte separates nothing in a locator that it does not end. -/
def IsPlain (b : UInt8) : Prop := b ≠ ascii '?' ∧ b ≠ ascii '#'

/-- The option for reading. -/
def readOnly : Octets := Octets.ofText "?mode=ro"

/-- The symbols of the option behind the question mark. -/
def readOnlySymbols : List Symbol := (Octets.ofText "mode=ro").map .plain

-- ---------------------------------------------------------------------------
-- Symbols of a name
-- ---------------------------------------------------------------------------

theorem readOnly_eq : ∃ rest, readOnly = ascii '?' :: ascii 'm' :: rest :=
  ⟨Octets.ofText "ode=ro", by decide⟩

theorem symbols_readOnly : symbols readOnly = .plain (ascii '?') :: readOnlySymbols := by
  decide

theorem hexValue?_questionMark : hexValue? (ascii '?') = none := by decide

/-- No escape stands for a plain symbol. -/
theorem escape?_ne_plain {a b x : UInt8} {s : Symbol} (h : escape? a b = some s) :
    s ≠ .plain x := by
  obtain ⟨m, -, h⟩ := Option.bind_eq_some_iff.1 h
  obtain ⟨n, -, h⟩ := Option.bind_eq_some_iff.1 h
  rw [← Option.some.inj h]
  split <;> exact nofun

theorem escape?_questionMark_right (a : UInt8) : escape? a (ascii '?') = none := by
  rw [escape?, hexValue?_questionMark]
  cases hexValue? a <;> rfl

theorem escape?_questionMark_left (b : UInt8) : escape? (ascii '?') b = none := by
  rw [escape?, hexValue?_questionMark]
  rfl

/-- A byte that starts no escape stands for itself. -/
theorem symbols_cons {c a b : UInt8} {rest : Octets} (hc : c ≠ ascii '#')
    (h : (if c = ascii '%' then escape? a b else none) = none) :
    symbols (c :: a :: b :: rest) = .plain c :: symbols (a :: b :: rest) := by
  rw [symbols, if_neg hc, h]

/-- The symbols of a name come before those of the option, and none of them is a question mark. -/
theorem symbols_append_readOnly : ∀ (name : Octets), (∀ b ∈ name, IsPlain b) →
    ∃ s, .plain (ascii '?') ∉ s ∧ symbols (name ++ readOnly) = s ++ symbols readOnly
  | [], _ => ⟨[], List.not_mem_nil, rfl⟩
  | [c], h => by
    -- a percent sign this near to the end would take the question mark for a hex digit
    obtain ⟨rest, hrest⟩ := readOnly_eq
    obtain ⟨hmark, hhash⟩ := h c List.mem_cons_self
    refine ⟨[.plain c], fun hmem => hmark (Symbol.plain.inj (List.mem_singleton.1 hmem)).symm, ?_⟩
    rw [hrest, List.singleton_append, List.singleton_append]
    refine symbols_cons hhash ?_
    rw [escape?_questionMark_left, ite_self]
  | [c, a], h => by
    obtain ⟨rest, hrest⟩ := readOnly_eq
    obtain ⟨hmark, hhash⟩ := h c List.mem_cons_self
    obtain ⟨s, hs, hsymbols⟩ :=
      symbols_append_readOnly [a] fun b hb => h b (List.mem_cons_of_mem c hb)
    have hne : Symbol.plain (ascii '?') ≠ .plain c := fun heq => hmark (Symbol.plain.inj heq).symm
    refine ⟨.plain c :: s, List.not_mem_cons_of_ne_of_not_mem hne hs, ?_⟩
    -- here the question mark would be the second digit
    show symbols (c :: a :: readOnly) = .plain c :: (s ++ symbols readOnly)
    rw [← hsymbols, hrest]
    refine symbols_cons hhash ?_
    rw [escape?_questionMark_right, ite_self]
  | c :: a :: b :: rest, h => by
    obtain ⟨hmark, hhash⟩ := h c List.mem_cons_self
    -- from three octets on, an escape ends before the appended part
    cases hescape : if c = ascii '%' then escape? a b else none with
    | none =>
      obtain ⟨s, hs, hsymbols⟩ :=
        symbols_append_readOnly (a :: b :: rest) fun x hx => h x (List.mem_cons_of_mem c hx)
      have hne : Symbol.plain (ascii '?') ≠ .plain c := fun heq => hmark (Symbol.plain.inj heq).symm
      refine ⟨.plain c :: s, List.not_mem_cons_of_ne_of_not_mem hne hs, ?_⟩
      show symbols (c :: a :: b :: (rest ++ readOnly)) = .plain c :: (s ++ symbols readOnly)
      rw [← hsymbols]
      exact symbols_cons hhash hescape
    | some e =>
      obtain ⟨s, hs, hsymbols⟩ := symbols_append_readOnly rest fun x hx =>
        h x (List.mem_cons_of_mem c (List.mem_cons_of_mem a (List.mem_cons_of_mem b hx)))
      have hne : e ≠ .plain (ascii '?') := by
        split at hescape
        · exact escape?_ne_plain hescape
        · exact nomatch hescape
      refine ⟨e :: s, List.not_mem_cons_of_ne_of_not_mem hne.symm hs, ?_⟩
      show symbols (c :: a :: b :: (rest ++ readOnly)) = e :: (s ++ symbols readOnly)
      rw [symbols, if_neg hhash, hescape, ← hsymbols]

/-- A text is split at the first separator. -/
theorem splitAt_append {separator : Char} {s rest : List Symbol}
    (h : .plain (ascii separator) ∉ s) :
    splitAt separator (s ++ .plain (ascii separator) :: rest) = (s, rest) := by
  have hbefore : ∀ x ∈ s, (x != .plain (ascii separator)) = true :=
    fun x hx => bne_iff_ne.2 fun heq => h (heq ▸ hx)
  rw [splitAt, List.span_eq_takeWhile_dropWhile, List.takeWhile_append_of_pos hbefore,
    List.dropWhile_append_of_pos hbefore]
  simp

-- ---------------------------------------------------------------------------
-- Hosts
-- ---------------------------------------------------------------------------

/-- The slash behind a host stands in front of the option: the host would go on through the option
otherwise. -/
theorem not_forall_ne_slash {rest : Octets}
    (h : (((rest ++ readOnly).takeWhile (· != ascii '/')).isEmpty ||
      (rest ++ readOnly).takeWhile (· != ascii '/') == Octets.ofText "localhost") = true) :
    ¬ ∀ x ∈ rest, (x != ascii '/') = true := by
  intro hrest
  obtain ⟨option, hoption⟩ := readOnly_eq
  have hnoSlash : ∀ x ∈ readOnly, (x != ascii '/') = true := by decide +kernel
  have hall : ∀ x ∈ rest ++ readOnly, (x != ascii '/') = true :=
    List.forall_mem_append.2 ⟨hrest, hnoSlash⟩
  have hmem : ascii '?' ∈ rest ++ readOnly :=
    List.mem_append_right rest (by rw [hoption]; exact List.mem_cons_self)
  rw [List.takeWhile_eq_self_iff.2 hall, Bool.or_eq_true, List.isEmpty_iff, beq_iff_eq] at h
  rcases h with heq | heq
  · rw [heq] at hmem
    exact absurd hmem List.not_mem_nil
  · rw [heq] at hmem
    exact absurd hmem (by decide)

/-- Taking a host off the front leaves the option where it is. -/
theorem behindHost?_append_readOnly {name b : Octets}
    (h : behindHost? (name ++ readOnly) = some b) :
    ∃ path, b = path ++ readOnly ∧ path ⊆ name := by
  obtain ⟨option, hoption⟩ := readOnly_eq
  match name with
  | [] =>
    rw [List.nil_append, hoption, behindHost?, if_neg (by decide)] at h
    exact ⟨[], by rw [List.nil_append, hoption, Option.some.inj h], List.Subset.refl _⟩
  | [s] =>
    -- the appended part begins with a question mark, so it opens no host
    have hmark : ¬ (s = ascii '/' ∧ ascii '?' = ascii '/') := fun h => absurd h.2 (by decide)
    rw [List.singleton_append, hoption, behindHost?, if_neg hmark] at h
    exact ⟨[s], by rw [List.singleton_append, hoption, Option.some.inj h], List.Subset.refl _⟩
  | s :: s' :: rest =>
    rw [List.cons_append, List.cons_append, behindHost?] at h
    split at h
    · rw [List.span_eq_takeWhile_dropWhile] at h
      dsimp only at h
      split at h
      · rename_i hhost
        -- the host ends within the name, where its next slash is
        have hdrop : (rest ++ readOnly).dropWhile (· != ascii '/') =
            rest.dropWhile (· != ascii '/') ++ readOnly := by
          rw [List.dropWhile_append, if_neg]
          rw [List.isEmpty_iff, List.dropWhile_eq_nil_iff]
          exact not_forall_ne_slash hhost
        refine ⟨rest.dropWhile (· != ascii '/'), ?_, fun x hx => ?_⟩
        · rw [← Option.some.inj h, hdrop]
        · have hx' := (List.dropWhile_suffix _).subset hx
          exact List.mem_cons_of_mem s (List.mem_cons_of_mem s' hx')
      · exact nomatch h
    · exact ⟨s :: s' :: rest, (Option.some.inj h).symm, List.Subset.refl _⟩

-- ---------------------------------------------------------------------------
-- Terms
-- ---------------------------------------------------------------------------

/-- The options that are appended ask for reading only. -/
theorem optionsOf_readOnlySymbols :
    optionsOf readOnlySymbols = [(Octets.ofText "mode", Octets.ofText "ro")] := by
  decide

/-- The locator of a name with the option for reading behind it has this option only. -/
theorem options_of_readOnly {name : String} (hname : ∀ b ∈ Octets.ofText name, IsPlain b)
    {l : Locator} (h : ofText? (name ++ "?mode=ro") = some l) :
    l.options = [(Octets.ofText "mode", Octets.ofText "ro")] := by
  obtain ⟨b, hb, h⟩ := Option.bind_eq_some_iff.1 h
  rw [Octets.ofText_append] at hb
  obtain ⟨path, rfl, hpath⟩ := behindHost?_append_readOnly hb
  obtain ⟨s, hs, hsymbols⟩ :=
    symbols_append_readOnly path fun x hx => hname x (hpath hx)
  rw [hsymbols, symbols_readOnly, splitAt_append hs] at h
  rw [← Option.some.inj h]
  exact optionsOf_readOnlySymbols

/-- **Reading.** A name without question marks and hash signs, with the option for reading behind
it, is opened for reading. -/
theorem mode_of_readOnly {name : String} (hname : ∀ b ∈ Octets.ofText name, IsPlain b)
    {l : Locator} (h : ofText? (name ++ "?mode=ro") = some l) {t : Terms}
    (ht : l.terms? = some t) : t.mode = .read := by
  have hmode : ((Terms.add? {} (Octets.ofText "mode", Octets.ofText "ro")).map Terms.mode) =
      some .read := by decide
  have hsystem : fileSystem? [(Octets.ofText "mode", Octets.ofText "ro")] = none := by
    decide
  rw [terms?, options_of_readOnly hname h, hsystem] at ht
  obtain ⟨t', ht', ht⟩ := Option.bind_eq_some_iff.1 ht
  obtain rfl := Option.some.inj ht
  rw [List.foldlM_cons, Option.bind_eq_bind] at ht'
  obtain ⟨t'', ht'', ht'⟩ := Option.bind_eq_some_iff.1 ht'
  obtain rfl := Option.some.inj ht'
  rw [ht''] at hmode
  exact Option.some.inj hmode

end Locator

end Regenesis
