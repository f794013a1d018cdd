import AuthMiniGateway.Cookies

namespace AuthMiniGateway

/-! ### Splitting -/

variable {c : Char} {before text after : List Char} {mac : Mac} {value secret : String}

theorem splitOnce_append (after : List Char) (hc : c ∉ before) :
    splitOnce c (before ++ c :: after) = some (before, after) := by
  have hne : ∀ d ∈ before, decide (d ≠ c) = true := by
    intro d hd
    rw [decide_eq_true_eq]
    rintro rfl
    exact hc hd
  rw [splitOnce, List.span_eq_takeWhile_dropWhile, List.takeWhile_append_of_pos hne,
    List.dropWhile_append_of_pos hne]
  simp

theorem splitOnce_of_not_mem (hc : c ∉ text) : splitOnce c text = none := by
  have hne : ∀ d ∈ text, decide (d ≠ c) = true := by
    intro d hd
    rw [decide_eq_true_eq]
    rintro rfl
    exact hc hd
  rw [splitOnce, List.span_eq_takeWhile_dropWhile, List.dropWhile_eq_nil_iff.mpr hne]

theorem splitOnce_eq_some (h : splitOnce c text = some (before, after)) :
    text = before ++ c :: after := by
  unfold splitOnce at h
  rw [List.span_eq_takeWhile_dropWhile] at h
  have hsplit : text.takeWhile (· ≠ c) ++ text.dropWhile (· ≠ c) = text :=
    List.takeWhile_append_dropWhile
  cases hdrop : text.dropWhile (· ≠ c) with
  | nil =>
    rw [hdrop] at h
    cases h
  | cons d =>
    rw [hdrop] at h hsplit
    cases h
    have hd : d = c := by
      have hhead := List.head?_dropWhile_not (fun x : Char => decide (x ≠ c)) text
      rw [hdrop] at hhead
      simpa using hhead
    rw [hd] at hsplit
    exact hsplit.symm

theorem splitOnce_cons_of_ne {d : Char} (rest : List Char) (hne : d ≠ c) :
    splitOnce c (d :: rest) = (splitOnce c rest).map fun parts => (d :: parts.1, parts.2) := by
  have htake : (d :: rest).takeWhile (· ≠ c) = d :: rest.takeWhile (· ≠ c) :=
    List.takeWhile_cons_of_pos (by simpa using hne)
  have hdrop : (d :: rest).dropWhile (· ≠ c) = rest.dropWhile (· ≠ c) :=
    List.dropWhile_cons_of_pos (by simpa using hne)
  rw [splitOnce, splitOnce, List.span_eq_takeWhile_dropWhile, List.span_eq_takeWhile_dropWhile, htake,
    hdrop]
  cases rest.dropWhile (· ≠ c) with
  | nil | cons e tail => rfl

theorem splitLast_eq_some (h : splitLast c text = some (before, after)) :
    text = before ++ c :: after := by
  obtain ⟨⟨last, first⟩, hsplit, heq⟩ := Option.map_eq_some_iff.mp h
  cases heq
  have htext := congrArg List.reverse (splitOnce_eq_some hsplit)
  simpa using htext

theorem splitLast_append (before : List Char) (hc : c ∉ after) :
    splitLast c (before ++ c :: after) = some (before, after) := by
  have hreverse : (before ++ c :: after).reverse = after.reverse ++ c :: before.reverse := by simp
  have hmem : c ∉ after.reverse := fun h => hc (List.mem_reverse.mp h)
  rw [splitLast, hreverse, splitOnce_append _ hmem, Option.map_some]
  simp only [List.reverse_reverse]

/-! ### Trimming -/

theorem trim_around {left right : List Char} (hleft : ∀ c ∈ left, isWhiteSpace c = true)
    (hright : ∀ c ∈ right, isWhiteSpace c = true)
    (hfirst : ∀ c, text.head? = some c → isWhiteSpace c = false)
    (hlast : ∀ c, text.getLast? = some c → isWhiteSpace c = false) (hne : text ≠ []) :
    trim (left ++ (text ++ right)) = text := by
  have hstart : (left ++ (text ++ right)).dropWhile isWhiteSpace = text ++ right := by
    obtain ⟨c, rest, rfl⟩ := List.exists_cons_of_ne_nil hne
    rw [List.dropWhile_append_of_pos hleft, List.cons_append,
      List.dropWhile_cons_of_neg (by rw [hfirst c rfl]; decide)]
  have hend : (text ++ right).reverse.dropWhile isWhiteSpace = text.reverse := by
    have hspace : ∀ c ∈ right.reverse, isWhiteSpace c = true := fun c hc =>
      hright c (List.mem_reverse.mp hc)
    obtain ⟨c, rest, hrev⟩ := List.exists_cons_of_ne_nil (List.reverse_ne_nil_iff.mpr hne)
    have hc : text.getLast? = some c := by
      rw [← List.head?_reverse, hrev]
      rfl
    rw [List.reverse_append, List.dropWhile_append_of_pos hspace, hrev,
      List.dropWhile_cons_of_neg (by rw [hlast c hc]; decide)]
  rw [trim, hstart, hend, List.reverse_reverse]

/-! ### Signatures -/

theorem unsignValue_eq_some {signed : String} (h : unsignValue mac signed secret = some value) :
    signed = signValue mac value secret := by
  unfold unsignValue at h
  split at h
  · cases h
  · rename_i raw signature hsplit
    split_ifs at h with hmac
    cases h
    rw [signValue, ← hmac, ← String.toList_inj, splitLast_eq_some hsplit]
    simp

theorem readSignedCookie_eq_some {cookieHeader : Option String} {name : String}
    (h : readSignedCookie mac cookieHeader name secret = some value) :
    ∃ header, cookieHeader = some header ∧
      parseCookie header name = some (signValue mac value secret) := by
  unfold readSignedCookie at h
  obtain ⟨header, hheader, hparsed⟩ := Option.bind_eq_some_iff.mp h
  obtain ⟨signed, hsigned, hvalue⟩ := Option.bind_eq_some_iff.mp hparsed
  rw [← unsignValue_eq_some hvalue]
  exact ⟨header, hheader, hsigned⟩

theorem unsignValue_signValue (hmac : '.' ∉ (mac value secret).toList) :
    unsignValue mac (signValue mac value secret) secret = some value := by
  have hsplit : splitLast '.' (signValue mac value secret).toList =
      some (value.toList, (mac value secret).toList) := by
    rw [signValue, String.toList_append, String.toList_append, List.append_assoc]
    exact splitLast_append _ hmac
  simp only [unsignValue, hsplit, String.ofList_toList, if_true]

end AuthMiniGateway
