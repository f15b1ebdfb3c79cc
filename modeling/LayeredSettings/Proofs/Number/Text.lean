import LayeredSettings.Number.Style
import LayeredSettings.Proofs.Number.Shortest
import LayeredSettings.Proofs.Text.Blank

/-!
# Written numbers read back

Both written forms, the positional one and the one with a power of ten, name the decimal they were
made of, zeros at the end apart. So the text of a finite number reads back as that number, the sign
of a zero included, in every style. The text holds no blanks.
-/

namespace LayeredSettings

namespace Decimal

variable {whole fraction tail : List Char}

/-- A written power of ten is read as it is. -/
theorem exponent?_written (plus : Bool) (power : ℤ) :
    exponent? ('e' :: (if power < 0 then ['-'] else if plus then ['+'] else []) ++
      digitsOf power.natAbs) = some power := by
  obtain ⟨c, cs, hdigits⟩ := List.exists_cons_of_ne_nil (digitsOf_ne_nil power.natAbs)
  have hc : c.isDigit = true := isDigit_of_mem_digitsOf c (hdigits ▸ List.mem_cons_self)
  have hsign : splitSign ((if power < 0 then ['-'] else if plus then ['+'] else []) ++
      digitsOf power.natAbs) = (decide (power < 0), digitsOf power.natAbs) := by
    split
    · next hneg => simp [splitSign, hneg]
    · next hneg =>
      split
      · simp [splitSign, hneg]
      · rw [List.nil_append, hdigits, splitSign_of_isDigit hc]
        simp [hneg]
  have hsplit := splitDigits_of_forall (isDigit_of_mem_digitsOf (n := power.natAbs))
  have hrest : exponent? ('e' :: ((if power < 0 then ['-'] else if plus then ['+'] else []) ++
      digitsOf power.natAbs)) =
        some (if power < 0 then -(power.natAbs : ℤ) else power.natAbs) := by
    simp [exponent?, hsign, hsplit, digitsOf_ne_nil, ofDigits_digitsOf]
  rw [List.cons_append, hrest]
  congr 1
  split <;> omega

/-- A number with a point is read as the digits on both sides of it. -/
theorem unsigned?_point (negative : Bool) (fraction : List Char) {exponent : ℤ} (hne : whole ≠ [])
    (hwhole : ∀ c ∈ whole, c.isDigit = true) (hfraction : ∀ c ∈ fraction, c.isDigit = true)
    (htail : ∀ c ∈ tail.head?, c.isDigit = false) (hexponent : exponent? tail = some exponent) :
    unsigned? negative (whole ++ '.' :: (fraction ++ tail)) =
      some ⟨negative, ofDigits (whole ++ fraction), exponent - fraction.length⟩ := by
  have hpoint : ∀ c ∈ ('.' :: (fraction ++ tail)).head?, c.isDigit = false := by
    simp only [List.head?_cons, Option.mem_some_iff, forall_eq']
    decide
  have hbehind := splitDigits_append hfraction htail
  simp only [unsigned?, splitDigits_append hwhole hpoint, hbehind, hexponent]
  rw [if_neg (by simp [hne])]
  rfl

/-- A number that ends in the digits behind its point. -/
theorem unsigned?_fraction (negative : Bool) (fraction : List Char) (hne : whole ≠ [])
    (hwhole : ∀ c ∈ whole, c.isDigit = true) (hfraction : ∀ c ∈ fraction, c.isDigit = true) :
    unsigned? negative (whole ++ '.' :: fraction) =
      some ⟨negative, ofDigits (whole ++ fraction), -fraction.length⟩ := by
  have hnil : ∀ c ∈ ([] : List Char).head?, c.isDigit = false := by simp
  have hread := unsigned?_point negative fraction hne hwhole hfraction hnil rfl
  rwa [List.append_nil, Int.zero_sub] at hread

/-- A number without a point is read as its digits. -/
theorem unsigned?_whole (negative : Bool) {exponent : ℤ} (hne : whole ≠ [])
    (hwhole : ∀ c ∈ whole, c.isDigit = true)
    (htail : ∀ c ∈ tail.head?, c.isDigit = false ∧ c ≠ '.')
    (hexponent : exponent? tail = some exponent) :
    unsigned? negative (whole ++ tail) = some ⟨negative, ofDigits whole, exponent⟩ := by
  have hsplit := splitDigits_append hwhole fun c hc => (htail c hc).1
  unfold unsigned?
  rw [hsplit]
  dsimp only
  split
  · exact absurd rfl (htail '.' rfl).2
  · simp [hne, hexponent]

/-- The positional form names the decimal, up to zeros at the end. -/
theorem unsigned?_positional (negative : Bool) (d : Decimal) :
    (unsigned? negative d.positional).map Binary64.ofDecimal =
      some (Binary64.ofDecimal ⟨negative, d.digits, d.exponent⟩) := by
  have hdigits := isDigit_of_mem_digitsOf (n := d.digits)
  have hne := digitsOf_ne_nil d.digits
  have hvalue := ofDigits_digitsOf d.digits
  have htop : d.top = (digitsOf d.digits).length + d.exponent := rfl
  have hzeros : ∀ n, ∀ c ∈ List.replicate n '0', c.isDigit = true := by
    intro n c hc
    rw [List.eq_of_mem_replicate hc]
    rfl
  have hzero : ∀ c ∈ ['0'], c.isDigit = true := hzeros 1
  unfold positional
  dsimp only
  generalize digitsOf d.digits = digits at *
  split
  · next hexponent =>
    -- The digit behind the point is one more zero.
    have hwhole : ∀ c ∈ digits ++ List.replicate d.exponent.toNat '0', c.isDigit = true := by
      intro c hc
      exact (List.mem_append.mp hc).elim (hdigits c) (hzeros _ c)
    have hnumber : ofDigits (digits ++ List.replicate d.exponent.toNat '0' ++ ['0']) =
        d.digits * 10 ^ (d.exponent.toNat + 1) := by
      have hlast : List.replicate d.exponent.toNat '0' ++ ['0'] =
          List.replicate (d.exponent.toNat + 1) '0' := List.replicate_succ'.symm
      rw [List.append_assoc, hlast, ofDigits_append, hvalue, ofDigits_replicate_zero,
        List.length_replicate, Nat.add_zero]
    rw [unsigned?_fraction negative ['0'] (by simp [hne]) hwhole hzero, Option.map_some, hnumber,
      Binary64.ofDecimal_mul_pow_ten]
    congr 3
    simp only [List.length_singleton]
    omega
  · next hexponent =>
    split
    · next hpositive =>
      have htake : digits.take d.top.toNat ≠ [] := by
        simp only [ne_eq, List.take_eq_nil_iff, hne, or_false]
        omega
      rw [unsigned?_fraction negative _ htake (fun c hc => hdigits c (List.mem_of_mem_take hc))
        (fun c hc => hdigits c (List.mem_of_mem_drop hc)), List.take_append_drop, hvalue,
        Option.map_some, List.length_drop]
      congr 3
      omega
    · next hsmall =>
      have hbehind : ∀ c ∈ List.replicate (-d.top).toNat '0' ++ digits, c.isDigit = true := by
        intro c hc
        exact (List.mem_append.mp hc).elim (hzeros _ c) (hdigits c)
      have hnumber : ofDigits ('0' :: (List.replicate (-d.top).toNat '0' ++ digits)) =
          d.digits := by
        have hfront : '0' :: (List.replicate (-d.top).toNat '0' ++ digits) =
            List.replicate ((-d.top).toNat + 1) '0' ++ digits := rfl
        rw [hfront, ofDigits_append, ofDigits_replicate_zero, Nat.zero_mul, Nat.zero_add, hvalue]
      have hread := unsigned?_fraction negative _ (by simp) hzero hbehind
      have htext : ['0', '.'] ++ List.replicate (-d.top).toNat '0' ++ digits =
          ['0'] ++ '.' :: (List.replicate (-d.top).toNat '0' ++ digits) := rfl
      rw [htext, hread, List.singleton_append, hnumber, Option.map_some, List.length_append,
        List.length_replicate]
      congr 3
      omega

/-- The form with a power of ten names the decimal. -/
theorem unsigned?_scientific (negative plus : Bool) (d : Decimal) :
    unsigned? negative (d.scientific plus) = some ⟨negative, d.digits, d.exponent⟩ := by
  have hdigits := isDigit_of_mem_digitsOf (n := d.digits)
  have hvalue := ofDigits_digitsOf d.digits
  have htop : d.top = (digitsOf d.digits).length + d.exponent := rfl
  have htail := exponent?_written plus (d.top - 1)
  have hletter : 'e'.isDigit = false ∧ 'e' ≠ '.' := by decide
  unfold scientific
  dsimp only
  split
  · next heq => exact absurd heq (digitsOf_ne_nil d.digits)
  · next c heq =>
    rw [heq] at hdigits hvalue htop
    rw [List.append_assoc, unsigned?_whole negative (by simp) hdigits
      (by simp [hletter]) htail, hvalue]
    congr 2
    simp only [List.length_singleton] at htop
    omega
  · next c rest _ heq =>
    rw [heq] at hdigits hvalue htop
    have hfirst : ∀ a ∈ [c], a.isDigit = true := by simpa using hdigits c List.mem_cons_self
    have hrest : ∀ a ∈ rest, a.isDigit = true := fun a ha => hdigits a (List.mem_cons_of_mem c ha)
    have hread := unsigned?_point negative rest (by simp) hfirst hrest (by simp [hletter]) htail
    rw [List.append_assoc]
    refine hread.trans ?_
    rw [List.singleton_append, hvalue]
    congr 2
    simp only [List.length_cons] at htop
    omega

/-- A digit stands in front of the positional form. -/
theorem head_positional (d : Decimal) : ∃ c cs, d.positional = c :: cs ∧ c.isDigit = true := by
  obtain ⟨c, cs, hdigits⟩ := List.exists_cons_of_ne_nil (digitsOf_ne_nil d.digits)
  have hc : c.isDigit = true := isDigit_of_mem_digitsOf c (hdigits ▸ List.mem_cons_self)
  unfold positional
  dsimp only
  rw [hdigits]
  split
  · exact ⟨c, _, rfl, hc⟩
  · split
    · next hpositive =>
      obtain ⟨n, hn⟩ : ∃ n, d.top.toNat = n + 1 := ⟨d.top.toNat - 1, by omega⟩
      rw [hn]
      exact ⟨c, _, rfl, hc⟩
    · exact ⟨'0', _, rfl, rfl⟩

/-- A digit stands in front of the form with a power of ten. -/
theorem head_scientific (plus : Bool) (d : Decimal) :
    ∃ c cs, d.scientific plus = c :: cs ∧ c.isDigit = true := by
  obtain ⟨c, cs, hdigits⟩ := List.exists_cons_of_ne_nil (digitsOf_ne_nil d.digits)
  have hc : c.isDigit = true := isDigit_of_mem_digitsOf c (hdigits ▸ List.mem_cons_self)
  unfold scientific
  dsimp only
  rw [hdigits]
  cases cs with
  | nil => exact ⟨c, _, rfl, hc⟩
  | cons b cs => exact ⟨c, _, rfl, hc⟩

/-- There are no blanks among the digits. -/
theorem isBlank_of_mem_digitsOf {n : ℕ} : ∀ c ∈ digitsOf n, Text.isBlank c = false := by
  intro c hc
  exact Text.isBlank_of_isDigit (isDigit_of_mem_digitsOf c hc)

/-- There are no blanks in the positional form. -/
theorem isBlank_of_mem_positional {d : Decimal} : ∀ c ∈ d.positional, Text.isBlank c = false := by
  have hdigits := isBlank_of_mem_digitsOf (n := d.digits)
  have hzeros : ∀ n, ∀ c ∈ List.replicate n '0', Text.isBlank c = false := by
    intro n c hc
    rw [List.eq_of_mem_replicate hc]
    rfl
  have hbehind : ∀ c ∈ ['.', '0'], Text.isBlank c = false := Text.isBlank_of_all rfl
  have hbefore : ∀ c ∈ ['0', '.'], Text.isBlank c = false := Text.isBlank_of_all rfl
  intro c hc
  unfold positional at hc
  dsimp only at hc
  split at hc
  · rcases List.mem_append.mp hc with hfront | hlast
    · exact (List.mem_append.mp hfront).elim (hdigits c) (hzeros _ c)
    · exact hbehind c hlast
  · split at hc
    · rcases List.mem_append.mp hc with hfront | hback
      · exact hdigits c (List.mem_of_mem_take hfront)
      · rcases List.mem_cons.mp hback with rfl | hrest
        · rfl
        · exact hdigits c (List.mem_of_mem_drop hrest)
    · rcases List.mem_append.mp hc with hfront | hback
      · exact (List.mem_append.mp hfront).elim (hbefore c) (hzeros _ c)
      · exact hdigits c hback

/-- There are no blanks in the form with a power of ten. -/
theorem isBlank_of_mem_scientific {plus : Bool} {d : Decimal} :
    ∀ c ∈ d.scientific plus, Text.isBlank c = false := by
  have hdigits := isBlank_of_mem_digitsOf (n := d.digits)
  have hsign : ∀ c ∈ 'e' :: (if d.top - 1 < 0 then ['-'] else if plus then ['+'] else []),
      Text.isBlank c = false := by
    split
    · exact Text.isBlank_of_all rfl
    · split <;> exact Text.isBlank_of_all rfl
  intro c hc
  rcases List.mem_append.mp hc with hfront | hpower
  · rcases List.mem_append.mp hfront with hmantissa | hletter
    · split at hmantissa
      · exact absurd hmantissa List.not_mem_nil
      · next heq => exact hdigits c (heq ▸ hmantissa)
      · next first rest _ heq =>
        rw [heq] at hdigits
        rcases List.mem_cons.mp hmantissa with rfl | hbehind
        · exact hdigits _ List.mem_cons_self
        · rcases List.mem_cons.mp hbehind with rfl | hrest
          · rfl
          · exact hdigits c (List.mem_cons_of_mem first hrest)
    · exact hsign c hletter
  · exact isBlank_of_mem_digitsOf c hpower

end Decimal

namespace Binary64

/-- What starts with a digit is read as a decimal number, behind a sign too. -/
theorem read?_digit (negative : Bool) {c : Char} (hc : c.isDigit = true) (cs : List Char) :
    read? (signText negative ++ c :: cs) =
      (Decimal.unsigned? negative (c :: cs)).map ofDecimal := by
  have hsign : Decimal.splitSign (signText negative ++ c :: cs) = (negative, c :: cs) := by
    cases negative with
    | true => rfl
    | false => exact Decimal.splitSign_of_isDigit hc cs
  have hword : ∀ letter rest, 97 ≤ letter.toNat →
      String.ofList ((c :: cs).map Char.toLower) ≠ String.ofList (letter :: rest) := by
    intro letter rest hletter heq
    have hhead : c.toLower = letter := List.head_eq_of_cons_eq (String.ofList_injective heq)
    have hcode := Text.toNat_of_isDigit hc
    have hlower := Text.toNat_toLower c
    rw [hhead] at hlower
    omega
  unfold read?
  rw [hsign]
  dsimp only
  rw [if_neg (hword 'n' ['a', 'n'] (by decide)), if_neg]
  rintro (h | h)
  · exact hword 'i' ['n', 'f'] (by decide) h
  · exact hword 'i' ['n', 'f', 'i', 'n', 'i', 't', 'y'] (by decide) h

/-- The text of a finite number reads back as the number. -/
theorem read?_text (style : FloatStyle) (undefined : String) (negative : Bool)
    (magnitude : Fin finiteCount) :
    read? (text style undefined (finite negative magnitude)).toList =
      some (finite negative magnitude) := by
  have hshortest := ofDecimal_sign negative (ofDecimal_shortest style.tie magnitude)
  unfold text magnitudeText
  rw [String.toList_ofList]
  split
  · next hzero =>
    have hmagnitude : magnitude = zeroMagnitude := Fin.ext hzero
    rw [read?_digit negative rfl, hmagnitude]
    rfl
  · dsimp only
    split
    · obtain ⟨c, cs, hform, hc⟩ := (shortest style.tie magnitude).head_positional
      rw [hform, read?_digit negative hc, ← hform, Decimal.unsigned?_positional, hshortest]
    · obtain ⟨c, cs, hform, hc⟩ := (shortest style.tie magnitude).head_scientific style.plus
      rw [hform, read?_digit negative hc, ← hform, Decimal.unsigned?_scientific, Option.map_some,
        hshortest]

/-- A sign is no blank. -/
theorem isBlank_of_mem_signText {negative : Bool} :
    ∀ c ∈ signText negative, Text.isBlank c = false := by
  cases negative <;> exact Text.isBlank_of_all rfl

/-- There are no blanks in the text of a finite number. -/
theorem isBlank_of_mem_text {style : FloatStyle} {undefined : String} {negative : Bool}
    {magnitude : Fin finiteCount} :
    ∀ c ∈ (text style undefined (finite negative magnitude)).toList, Text.isBlank c = false := by
  have hmagnitude : ∀ c ∈ magnitudeText style magnitude, Text.isBlank c = false := by
    unfold magnitudeText
    split
    · exact Text.isBlank_of_all rfl
    · dsimp only
      split
      · exact Decimal.isBlank_of_mem_positional
      · exact Decimal.isBlank_of_mem_scientific
  unfold text
  rw [String.toList_ofList]
  intro c hc
  exact (List.mem_append.mp hc).elim (isBlank_of_mem_signText c) (hmagnitude c)

end Binary64

end LayeredSettings
