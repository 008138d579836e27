import ProtoPlan.Code.Literal

/-!
Literals at the end of a text. A length is settled by what stands before a colon, so that a text may
be continued by one.
-/

namespace ProtoPlan.Code.Literal

open Text

/-- Characters of names, with colons between them. -/
def InPath (cs : List Char) : Prop := ∀ c ∈ cs, c = ':' ∨ isIdentMore c = true

instance (cs : List Char) : Decidable (InPath cs) :=
  decidable_of_iff (cs.all fun c => c = ':' || isIdentMore c) (by simp [InPath])

theorem InPath.not_mem {c : Char} {cs : List Char} (h : InPath cs) (hcolon : c ≠ ':')
    (hc : isIdentMore c = false) : c ∉ cs := by
  intro hmem
  rcases h c hmem with rfl | hmore
  · exact hcolon rfl
  · rw [hc] at hmore
    cases hmore

theorem InPath.colon {cs : List Char} (h : InPath cs) : InPath (':' :: cs) :=
  List.forall_mem_cons.2 ⟨.inl rfl, h⟩

variable {t : List Char}

theorem takeWhile_append_colon (test : Char → Bool) (h : test ':' = false) (cs : List Char) :
    (cs ++ ':' :: t).takeWhile test = cs.takeWhile test := by
  induction cs with
  | nil => simp [h]
  | cons c cs ih => simp only [List.cons_append, List.takeWhile_cons, ih]

theorem exists_of_append_eq_cons {c : Char} {cs rest : List Char} (h : cs ++ ':' :: t = c :: rest)
    (hc : c ≠ ':') : ∃ rest', cs = c :: rest' ∧ rest' ++ ':' :: t = rest := by
  cases cs with
  | nil => exact absurd (List.cons.inj h).1.symm hc
  | cons d cs =>
    obtain ⟨rfl, rfl⟩ := List.cons.inj h
    exact ⟨cs, rfl, rfl⟩

theorem append_ne_cons {c : Char} {cs rest : List Char} (hc : c ≠ ':')
    (hcs : ∀ rest, cs = c :: rest → False) : cs ++ ':' :: t ≠ c :: rest := by
  intro h
  obtain ⟨cs, rfl, -⟩ := exists_of_append_eq_cons h hc
  exact hcs cs rfl

theorem append_ne_cons_cons {c d : Char} {cs rest : List Char} (hc : c ≠ ':') (hd : d ≠ ':')
    (hcs : ∀ rest, cs = c :: d :: rest → False) : cs ++ ':' :: t ≠ c :: d :: rest := by
  intro h
  obtain ⟨next, rfl, hnext⟩ := exists_of_append_eq_cons h hc
  obtain ⟨cs, rfl, -⟩ := exists_of_append_eq_cons hnext hd
  exact hcs cs rfl

theorem length_takeWhile_le (test : Char → Bool) (cs : List Char) :
    (cs.takeWhile test).length ≤ cs.length :=
  (List.takeWhile_sublist test).length_le

theorem nameLength_append (cs : List Char) : nameLength (cs ++ ':' :: t) = nameLength cs := by
  cases cs with
  | nil => rfl
  | cons c cs =>
    rw [List.cons_append, nameLength, nameLength, takeWhile_append_colon isIdentMore rfl]

theorem nameLength_le (cs : List Char) : nameLength cs ≤ cs.length := by
  cases cs with
  | nil => exact Nat.le_refl 0
  | cons c cs =>
    have := length_takeWhile_le isIdentMore cs
    rw [nameLength]
    split <;> simp only [List.length_cons] <;> omega

theorem codePoint_append (value digits : Nat) (cs : List Char) :
    codePoint value digits (cs ++ ':' :: t) = codePoint value digits cs := by
  induction cs generalizing value digits with
  | nil => rfl
  | cons c cs ih => simp only [List.cons_append, codePoint, ih]

theorem codePoint_le {value digits n : Nat} {cs : List Char}
    (h : codePoint value digits cs = some n) : n ≤ cs.length := by
  fun_induction codePoint value digits cs generalizing n <;> grind [Option.map_eq_some_iff]

theorem escape_append (bytes : Bool) (cs : List Char) :
    escape bytes (cs ++ ':' :: t) = escape bytes cs := by
  rcases cs with _ | ⟨c, cs⟩
  · simp [escape]
  by_cases hx : c = 'x'
  · subst hx
    rcases cs with _ | ⟨high, _ | ⟨low, cs⟩⟩
    · cases t <;> simp [escape, hexDigit?]
    · simp [escape, hexDigit?]
    · simp [escape]
  by_cases hu : c = 'u'
  · subst hu
    rcases cs with _ | ⟨d, cs⟩
    · simp [escape]
    by_cases hd : d = '\x7b'
    · subst hd
      simp only [List.cons_append, escape, codePoint_append]
    · simp [escape, hd]
  · simp [escape, hx, hu]

theorem escape_le {bytes : Bool} {n : Nat} {cs : List Char} (h : escape bytes cs = some n) :
    n ≤ cs.length := by
  revert h
  fun_cases escape bytes cs <;> grind [Option.map_eq_some_iff, → codePoint_le]

theorem lineBreak_append (cs : List Char) : lineBreak (cs ++ ':' :: t) = lineBreak cs := by
  have hblanks (cs : List Char) : lineBreak.blanks (cs ++ ':' :: t) = lineBreak.blanks cs := by
    rw [lineBreak.blanks, takeWhile_append_colon _ (by decide), lineBreak.blanks]
  rcases cs with _ | ⟨c, cs⟩
  · simp [lineBreak]
  by_cases hn : c = '\n'
  · subst hn
    simp only [List.cons_append, lineBreak, hblanks]
  by_cases hr : c = '\r'
  · subst hr
    rcases cs with _ | ⟨d, cs⟩
    · simp [lineBreak]
    by_cases hd : d = '\n'
    · subst hd
      simp only [List.cons_append, lineBreak, hblanks]
    · simp [lineBreak, hd]
  · simp [lineBreak, hn, hr]

theorem head?_append_colon_ne {c : Char} (h : c ≠ ':') (cs : List Char) :
    ((cs ++ ':' :: t).head? ≠ some c) = (cs.head? ≠ some c) := by
  cases cs <;> simp [h.symm]

theorem quoted_eq_none (bytes : Bool) (skip : Nat) {cs : List Char} (hquote : '"' ∉ cs)
    (hslash : '\\' ∉ cs) : quoted bytes skip cs = none := by
  fun_induction quoted bytes skip cs <;> simp_all

theorem quoted_append (bytes : Bool) (skip : Nat) (ht : InPath t)
    (cs : List Char) : quoted bytes skip (cs ++ ':' :: t) = quoted bytes skip cs := by
  induction cs generalizing skip with
  | nil =>
    exact quoted_eq_none bytes skip (ht.colon.not_mem (by decide) (by decide))
      (ht.colon.not_mem (by decide) (by decide))
  | cons c cs ih =>
    cases skip with
    | zero =>
      simp only [List.cons_append, quoted, ih, escape_append, lineBreak_append,
        head?_append_colon_ne (c := '\n') (by decide)]
    | succ skip => simp only [List.cons_append, quoted, ih]

theorem quoted_le {bytes : Bool} {skip n : Nat} {cs : List Char}
    (h : quoted bytes skip cs = some n) : n ≤ cs.length := by
  fun_induction quoted bytes skip cs generalizing n <;> grind [Option.map_eq_some_iff]

theorem rawEnd_eq_none (bytes : Bool) (hashes : Nat) {cs : List Char} (hquote : '"' ∉ cs) :
    rawEnd bytes hashes cs = none := by
  fun_induction rawEnd bytes hashes cs <;> simp_all

theorem hashes_append (hashes : Nat) (cs : List Char) :
    (List.replicate hashes '#').isPrefixOf (cs ++ ':' :: t) =
      (List.replicate hashes '#').isPrefixOf cs := by
  induction hashes generalizing cs with
  | zero => rfl
  | succ hashes ih => cases cs <;> simp [List.replicate_succ, List.isPrefixOf, ih]

theorem rawEnd_append (bytes : Bool) (hashes : Nat) (ht : InPath t) (cs : List Char) :
    rawEnd bytes hashes (cs ++ ':' :: t) = rawEnd bytes hashes cs := by
  induction cs with
  | nil => exact rawEnd_eq_none bytes hashes (ht.colon.not_mem (by decide) (by decide))
  | cons c cs ih =>
    simp only [List.cons_append, rawEnd, ih, hashes_append,
      head?_append_colon_ne (c := '\n') (by decide)]

theorem rawEnd_le {bytes : Bool} {hashes n : Nat} {cs : List Char}
    (h : rawEnd bytes hashes cs = some n) : n ≤ cs.length := by
  fun_induction rawEnd bytes hashes cs generalizing n with
  | case1 => cases h
  | case2 c cs hc =>
    have hprefix : List.replicate hashes '#' <+: cs := by simp_all
    have := hprefix.length_le
    cases h
    simpa using this
  | case3 => cases h
  | case4 c cs h1 h2 ih => grind [Option.map_eq_some_iff]

theorem raw_append (bytes : Bool) (ht : InPath t) (cs : List Char) :
    raw bytes (cs ++ ':' :: t) = raw bytes cs := by
  have htake := takeWhile_append_colon (t := t) (· = '#') rfl cs
  simp only [raw, htake, List.drop_append_of_le_length (length_takeWhile_le _ _)]
  generalize (cs.takeWhile (· = '#')).length = hashes
  rcases cs.drop hashes with _ | ⟨c, cs⟩
  · rfl
  by_cases hc : c = '"'
  · subst hc
    simp only [List.cons_append, rawEnd_append _ _ ht]
  · simp [hc]

theorem raw_le {bytes : Bool} {n : Nat} {cs : List Char} (h : raw bytes cs = some n) :
    n ≤ cs.length := by
  have hhashes := length_takeWhile_le (· = '#') cs
  rw [raw] at h
  generalize (cs.takeWhile (· = '#')).length = hashes at h hhashes
  split at h
  · rename_i rest hrest
    have hlength : cs.length - hashes = rest.length + 1 := by simpa using congrArg List.length hrest
    split at h
    · obtain ⟨k, hk, rfl⟩ := Option.map_eq_some_iff.1 h
      have := rawEnd_le hk
      omega
    · cases h
  · cases h

theorem single_append (ht : InPath t) (bytes : Bool) (cs : List Char) :
    single bytes (cs ++ ':' :: t) = single bytes cs := by
  fun_cases single bytes cs with
  | case1 cs =>
    simp only [List.cons_append, single, escape_append]
    cases hescape : escape bytes cs with
    | none => rfl
    | some n =>
      simp only [Option.bind_eq_bind, Option.bind_some,
        List.drop_append_of_le_length (escape_le hescape)]
      cases cs.drop n <;> rfl
  | case2 c cs hslash hascii => simp [single.eq_2 _ _ _ hslash, hascii]
  | case3 c cs hslash hascii => simp [single.eq_2 _ _ _ hslash, hascii]
  | case4 cs hslash hquote =>
    refine single.eq_3 _ _ (fun rest h => ?_) fun c rest h => ?_
    · obtain ⟨rest, rfl, -⟩ := exists_of_append_eq_cons h (by decide)
      exact hslash _ rfl
    · rcases cs with _ | ⟨d, cs⟩
      · have hmem : '\'' ∈ t := by simp_all
        exact ht.not_mem (by decide) (by decide) hmem
      · obtain ⟨rest, rfl, -⟩ := exists_of_append_eq_cons (List.cons.inj h).2 (by decide)
        exact hquote _ _ rfl

theorem single_le {bytes : Bool} {n : Nat} {cs : List Char} (h : single bytes cs = some n) :
    n ≤ cs.length := by
  revert h
  fun_cases single bytes cs with
  | case1 cs =>
    intro h
    obtain ⟨k, hk, h⟩ := Option.bind_eq_some_iff.1 h
    split at h
    · rename_i hquote
      have : cs.drop k ≠ [] := by
        rintro hnil
        rw [hnil] at hquote
        cases hquote
      have := List.length_pos_iff.2 this
      rw [List.length_drop] at this
      cases h
      rw [List.length_cons]
      omega
    · cases h
  | case2 | case4 => exact nofun
  | case3 =>
    intro h
    cases h
    simp

theorem exponent_append (signed valued : Bool) (cs : List Char) :
    exponent signed valued (cs ++ ':' :: t) = exponent signed valued cs := by
  induction cs generalizing signed valued with
  | nil => rfl
  | cons c cs ih => simp only [List.cons_append, exponent, ih]

theorem exponent_le {signed valued : Bool} {n : Nat} {cs : List Char}
    (h : exponent signed valued cs = some n) : n ≤ cs.length := by
  fun_induction exponent signed valued cs generalizing n <;> grind [Option.map_eq_some_iff]

theorem digits_append (base : Nat) (seen : Bool) (cs : List Char) :
    digits base seen (cs ++ ':' :: t) = digits base seen cs := by
  induction cs generalizing seen with
  | nil => rfl
  | cons c cs ih => simp only [List.cons_append, digits, ih]

theorem digits_le {base : Nat} {seen : Bool} {n : Nat} {cs : List Char}
    (h : digits base seen cs = some n) : n ≤ cs.length := by
  fun_induction digits base seen cs generalizing n <;> grind [Option.map_eq_some_iff]


theorem power_append (cs : List Char) : decimal.power (cs ++ ':' :: t) = decimal.power cs := by
  cases cs with
  | nil => rfl
  | cons c cs => simp only [List.cons_append, decimal.power, exponent_append]

theorem power_le {n : Nat} {cs : List Char} (h : decimal.power cs = some n) : n ≤ cs.length := by
  revert h
  fun_cases decimal.power cs <;> grind [Option.map_eq_some_iff, → exponent_le]

theorem head?_append_any (test : Char → Bool) (h : test ':' = false) (cs : List Char) :
    (cs ++ ':' :: t).head?.any test = cs.head?.any test := by
  cases cs <;> simp [h]

theorem decimal_append (cs : List Char) : decimal (cs ++ ':' :: t) = decimal cs := by
  have htake (cs : List Char) := takeWhile_append_colon (t := t) isDecimal (by decide) cs
  simp only [decimal, htake, List.drop_append_of_le_length (length_takeWhile_le _ _)]
  generalize (cs.takeWhile isDecimal).length = whole
  rcases cs.drop whole with _ | ⟨c, cs⟩
  · rfl
  simp only [List.cons_append, htake, List.drop_append_of_le_length (length_takeWhile_le _ _),
    power_append, head?_append_any (fun d => d == '.' || isIdentStart d) (by decide)]
  rw [← List.cons_append, power_append]

theorem decimal_le {n : Nat} {cs : List Char} (h : decimal cs = some n) : n ≤ cs.length := by
  have hwhole := length_takeWhile_le isDecimal cs
  rw [decimal] at h
  generalize (cs.takeWhile isDecimal).length = whole at h hwhole
  split at h
  · cases h
  · rename_i c rest hrest
    have hlength : cs.length - whole = rest.length + 1 := by simpa using congrArg List.length hrest
    split at h
    · split at h
      · cases h
      · have hplaces := length_takeWhile_le isDecimal rest
        generalize (rest.takeWhile isDecimal).length = places at h hplaces
        have hpower : (decimal.power (rest.drop places)).getD 0 ≤ rest.length - places := by
          cases hp : decimal.power (rest.drop places) with
          | none => exact Nat.zero_le _
          | some k => simpa using power_le hp
        cases h
        omega
    · obtain ⟨k, hk, rfl⟩ := Option.map_eq_some_iff.1 h
      have := power_le hk
      rw [List.length_cons] at this
      omega

theorem integer_append (cs : List Char) : integer (cs ++ ':' :: t) = integer cs := by
  fun_cases integer cs with
  | case1 | case2 | case3 => simp only [List.cons_append, integer, digits_append]
  | case4 cs hx ho hb =>
    rw [integer.eq_4, digits_append]
    · exact fun rest h => append_ne_cons_cons (by decide) (by decide) hx h
    · exact fun rest h => append_ne_cons_cons (by decide) (by decide) ho h
    · exact fun rest h => append_ne_cons_cons (by decide) (by decide) hb h

theorem integer_le {n : Nat} {cs : List Char} (h : integer cs = some n) : n ≤ cs.length := by
  revert h
  fun_cases integer cs <;> grind [Option.map_eq_some_iff, → digits_le]

theorem finish_append {n : Nat} {cs : List Char} (h : n ≤ cs.length) :
    number.finish (cs ++ ':' :: t) n = number.finish cs n := by
  have hname := nameLength_le (cs.drop n)
  rw [List.length_drop] at hname
  have hn : n + nameLength (cs.drop n) ≤ cs.length := by omega
  simp only [number.finish, List.drop_append_of_le_length h, nameLength_append,
    List.drop_append_of_le_length hn, head?_append_any isIdentMore rfl]

theorem finish_le {n k : Nat} {cs : List Char} (h : n ≤ cs.length)
    (hk : number.finish cs n = some k) : k ≤ cs.length := by
  have hname := nameLength_le (cs.drop n)
  rw [List.length_drop] at hname
  unfold number.finish at hk
  grind

theorem number_append (cs : List Char) : number (cs ++ ':' :: t) = number cs := by
  have hdecimal : (decimal cs).bind (number.finish (cs ++ ':' :: t)) =
      (decimal cs).bind (number.finish cs) :=
    Option.bind_congr fun n hn => finish_append (decimal_le hn)
  have hinteger : (integer cs).bind (number.finish (cs ++ ':' :: t)) =
      (integer cs).bind (number.finish cs) :=
    Option.bind_congr fun n hn => finish_append (integer_le hn)
  rw [number, number, decimal_append, integer_append, hdecimal, hinteger]

theorem number_le {n : Nat} {cs : List Char} (h : number cs = some n) : n ≤ cs.length := by
  rw [number, Option.or_eq_some_iff] at h
  rcases h with h | ⟨-, h⟩
  · obtain ⟨k, hk, h⟩ := Option.bind_eq_some_iff.1 h
    exact finish_le (decimal_le hk) h
  · obtain ⟨k, hk, h⟩ := Option.bind_eq_some_iff.1 h
    exact finish_le (integer_le hk) h

/-- A literal after what it starts with, and with a name after it. -/
theorem suffixed_append {f : List Char → Option Nat} (start : List Char)
    (happend : ∀ cs, f (cs ++ ':' :: t) = f cs) (hle : ∀ cs n, f cs = some n → n ≤ cs.length)
    (cs : List Char) :
    length?.suffixed (start ++ cs ++ ':' :: t) ((f (cs ++ ':' :: t)).map (· + start.length)) =
      length?.suffixed (start ++ cs) ((f cs).map (· + start.length)) := by
  rw [happend]
  cases hn : f cs with
  | none => rfl
  | some n =>
    have hle : n + start.length ≤ (start ++ cs).length := by
      have := hle cs n hn
      rw [List.length_append]
      omega
    simp only [length?.suffixed, Option.map_some, List.drop_append_of_le_length hle,
      nameLength_append]

theorem suffixed_le {f : List Char → Option Nat} (start : List Char)
    (hle : ∀ cs n, f cs = some n → n ≤ cs.length) {cs : List Char} {n : Nat}
    (h : length?.suffixed (start ++ cs) ((f cs).map (· + start.length)) = some n) :
    n ≤ (start ++ cs).length := by
  obtain ⟨whole, hwhole, rfl⟩ := Option.map_eq_some_iff.1 h
  obtain ⟨k, hk, rfl⟩ := Option.map_eq_some_iff.1 hwhole
  have hname := nameLength_le ((start ++ cs).drop (k + start.length))
  have := hle cs k hk
  rw [List.length_drop] at hname
  rw [List.length_append] at hname ⊢
  omega

theorem length?_append (ht : InPath t) (cs : List Char) :
    length? (cs ++ ':' :: t) = length? cs := by
  have hnext {c d e : Char} {cs : List Char} (hd : d ≠ ':')
      (h : ∀ rest, c = e → cs = d :: rest → False) (rest : List Char) (hc : c = e) :
      cs ++ ':' :: t = d :: rest → False := by
    intro hcs
    obtain ⟨cs, rfl, -⟩ := exists_of_append_eq_cons hcs hd
    exact h cs hc rfl
  have hother {c : Char} {cs : List Char} (h1 : c = '"' → False) (h2 : c = '\'' → False)
      (h3 : c = 'r' → False) (h4 : ∀ rest, c = 'b' → cs = '"' :: rest → False)
      (h5 : ∀ rest, c = 'b' → cs = '\'' :: rest → False)
      (h6 : ∀ rest, c = 'b' → cs = 'r' :: rest → False)
      (h7 : ∀ rest, c = 'c' → cs = '"' :: rest → False)
      (h8 : ∀ rest, c = 'c' → cs = 'r' :: rest → False) :
      length? (c :: cs ++ ':' :: t) = if c.isDigit then number (c :: cs ++ ':' :: t) else none :=
    length?.eq_9 c _ h1 h2 h3 (hnext (by decide) h4) (hnext (by decide) h5)
      (hnext (by decide) h6) (hnext (by decide) h7) (hnext (by decide) h8)
  fun_cases length? cs with
  | case1 cs => exact suffixed_append ['"'] (quoted_append false 0 ht) (fun _ _ => quoted_le) cs
  | case2 cs => exact suffixed_append ['\''] (single_append ht false) (fun _ _ => single_le) cs
  | case3 cs => exact suffixed_append ['r'] (raw_append false ht) (fun _ _ => raw_le) cs
  | case4 cs => exact suffixed_append ['b', '"'] (quoted_append true 0 ht) (fun _ _ => quoted_le) cs
  | case5 cs => exact suffixed_append ['b', '\''] (single_append ht true) (fun _ _ => single_le) cs
  | case6 cs => exact suffixed_append ['b', 'r'] (raw_append true ht) (fun _ _ => raw_le) cs
  | case7 cs =>
    exact suffixed_append ['c', '"'] (quoted_append false 0 ht) (fun _ _ => quoted_le) cs
  | case8 cs => exact suffixed_append ['c', 'r'] (raw_append false ht) (fun _ _ => raw_le) cs
  | case9 c cs h1 h2 h3 h4 h5 h6 h7 h8 hdigit =>
    rw [hother h1 h2 h3 h4 h5 h6 h7 h8, if_pos hdigit, number_append]
  | case10 c cs h1 h2 h3 h4 h5 h6 h7 h8 hdigit =>
    rw [hother h1 h2 h3 h4 h5 h6 h7 h8, if_neg hdigit]
  | case11 => rfl

theorem length?_le {n : Nat} {cs : List Char} (h : length? cs = some n) : n ≤ cs.length := by
  revert h
  fun_cases length? cs with
  | case1 cs => exact suffixed_le ['"'] fun _ _ => quoted_le
  | case2 cs => exact suffixed_le ['\''] fun _ _ => single_le
  | case3 cs => exact suffixed_le ['r'] fun _ _ => raw_le
  | case4 cs => exact suffixed_le ['b', '"'] fun _ _ => quoted_le
  | case5 cs => exact suffixed_le ['b', '\''] fun _ _ => single_le
  | case6 cs => exact suffixed_le ['b', 'r'] fun _ _ => raw_le
  | case7 cs => exact suffixed_le ['c', '"'] fun _ _ => quoted_le
  | case8 cs => exact suffixed_le ['c', 'r'] fun _ _ => raw_le
  | case9 => exact number_le
  | case10 => exact nofun
  | case11 => exact nofun

end ProtoPlan.Code.Literal
