import Mathlib.Data.List.TakeWhile
import WorkflowQueue.Proofs.Records.Reading
import WorkflowQueue.Proofs.Text.Utf8
import WorkflowQueue.Proofs.Url.Escapes
import WorkflowQueue.Url.Reader

namespace WorkflowQueue.Url

/-!
# The authority of an address

What stands before the path, the query and the fragment of an address is read on
its own: `readWeb_append` cuts an address after its authority, and
`readAuthority` says what the first part alone gives. No authority that is
accepted ends in a blank or a control.
-/

/-! ## Two parts of an address -/

/-- A text in which no character ends an authority. -/
def IsWithin
    (text : List Char) :
    Prop :=
  ∀ c ∈ text, endsAuthority true c = false

/-- A text that an authority does not reach into. -/
def IsBeyond
    (text : List Char) :
    Prop :=
  ∀ c ∈ text.head?, endsAuthority true c = true

theorem isWithin_takeWhile
    (text : List Char) :
    IsWithin (text.takeWhile fun c => !endsAuthority true c) := by
  intro c member
  simpa using List.mem_takeWhile_imp member

theorem isBeyond_dropWhile
    (text : List Char) :
    IsBeyond (text.dropWhile fun c => !endsAuthority true c) := by
  intro c isFirst
  have stops := List.head?_dropWhile_not (fun c => !endsAuthority true c) text
  rw [Option.mem_def.mp isFirst] at stops
  simpa using stops

/-- A part of a text that is within an authority is within it, too. -/
theorem IsWithin.of_suffix
    {part text : List Char}
    (within : IsWithin text)
    (isPart : part <:+ text) :
    IsWithin part :=
  fun c member => within c (isPart.subset member)

/-- What an authority says. -/
structure Authority where
  userInfo : Option UserInfo
  host : Host
  port : Option Nat

/-- Read an authority on its own. -/
def readAuthority
    (text : List Char) :
    Except Fault Authority := do
  let (userInfo, text) ← readUserInfo true text
  let (hostText, text) := splitHost true false text
  if hostText.isEmpty then .error .emptyHost
  else
    let host ← readHost hostText
    let (port, _) ← readOptionalPort text
    return { userInfo := userInfo, host := host, port := port }

/-- The address with an authority and what follows it. -/
def Authority.url
    (authority : Authority)
    (scheme : Scheme)
    (text : List Char) :
    Url :=
  let path := text.takeWhile fun c => c ≠ '?' && c ≠ '#'
  let afterPath := text.dropWhile fun c => c ≠ '?' && c ≠ '#'
  {
    scheme := scheme
    userInfo := authority.userInfo
    host := authority.host
    port := authority.port.filter (· ≠ scheme.defaultPort)
    path := readPath path
    query := readQuery? (afterPath.takeWhile (· ≠ '#'))
    fragment := readFragment? (afterPath.dropWhile (· ≠ '#'))
  }

/-! ## User information -/

theorem takeWhile_within
    {authority text : List Char}
    (within : IsWithin authority)
    (beyond : IsBeyond text) :
    (authority ++ text).takeWhile (fun c => !endsAuthority true c) =
      authority := by
  have stops : text.takeWhile (fun c => !endsAuthority true c) = [] := by
    cases text with
    | nil => rfl
    | cons c rest => simp [beyond c rfl]
  rw [List.takeWhile_append_of_pos fun c member => by simp [within c member],
    stops, List.append_nil]

theorem takeWhile_within_alone
    {authority : List Char}
    (within : IsWithin authority) :
    authority.takeWhile (fun c => !endsAuthority true c) = authority := by
  rw [List.takeWhile_eq_self_iff]
  exact fun c member => by simp [within c member]

/-- User information is separated from the host by an at sign. -/
theorem eq_of_splitUserInfo?
    {authority info host : List Char}
    (within : IsWithin authority)
    (isSplit : splitUserInfo? true authority = some (info, host)) :
    authority = info ++ '@' :: host := by
  unfold splitUserInfo? at isSplit
  simp only [takeWhile_within_alone within, List.drop_length,
    List.append_nil] at isSplit
  have cut :
      authority.reverse.takeWhile (· ≠ '@') ++
          authority.reverse.dropWhile (· ≠ '@') =
        authority.reverse :=
    List.takeWhile_append_dropWhile
  have stops :=
    List.head?_dropWhile_not (fun c => decide (c ≠ '@')) authority.reverse
  split at isSplit
  · cases isSplit
  · next mark before isAfter =>
      cases isSplit
      rw [isAfter] at cut stops
      have isMark : mark = '@' := by simpa using stops
      have reversed := congrArg List.reverse cut
      rw [List.reverse_reverse, List.reverse_append, List.reverse_cons,
        isMark] at reversed
      rw [List.append_assoc, List.singleton_append] at reversed
      exact reversed.symm

/--
What stands before the last at sign does not depend on what follows the
authority.
-/
theorem splitUserInfo?_append
    {authority text : List Char}
    (within : IsWithin authority)
    (beyond : IsBeyond text) :
    splitUserInfo? true (authority ++ text) =
      (splitUserInfo? true authority).map fun (info, host) =>
        (info, host ++ text) := by
  unfold splitUserInfo?
  simp only [takeWhile_within within beyond, takeWhile_within_alone within,
    List.drop_left, List.drop_length]
  split <;> simp

/--
User information is read the same with and without what follows the authority,
but that a missing host shows at once when something follows.
-/
theorem readUserInfo_within
    {authority : List Char}
    (within : IsWithin authority) :
    ∃ userInfo host,
      readUserInfo true authority = .ok (userInfo, host) ∧
        IsWithin host ∧
        (authority = host ∨ ∃ info, authority = info ++ '@' :: host) ∧
        ∀ text, IsBeyond text →
          readUserInfo true (authority ++ text) = .ok (userInfo, host ++ text) ∨
            host = [] ∧ readUserInfo true (authority ++ text) =
              .error .emptyHost := by
  cases isSplit : splitUserInfo? true authority with
  | none =>
      refine ⟨none, authority, by simp [readUserInfo, isSplit], within,
        Or.inl rfl, ?_⟩
      intro text beyond
      left
      simp [readUserInfo, splitUserInfo?_append within beyond, isSplit]
  | some parts =>
      obtain ⟨info, host⟩ := parts
      have isJoined := eq_of_splitUserInfo? within isSplit
      have hostWithin : IsWithin host :=
        within.of_suffix (isJoined ▸ ⟨info ++ ['@'], by simp⟩)
      cases info with
      | cons first others =>
          refine ⟨userInfoOf? (first :: others), host,
            by simp [readUserInfo, isSplit], hostWithin,
            Or.inr ⟨_, isJoined⟩, ?_⟩
          intro text beyond
          left
          simp [readUserInfo, splitUserInfo?_append within beyond, isSplit]
      | nil =>
          refine ⟨none, host, ?_, hostWithin, Or.inr ⟨[], isJoined⟩, ?_⟩
          · cases host with
            | nil => simp [readUserInfo, isSplit, userInfoOf?, Component.encode]
            | cons c rest => simp [readUserInfo, isSplit, hostWithin c]
          · intro text beyond
            cases host with
            | cons c rest =>
                left
                simp [readUserInfo, splitUserInfo?_append within beyond,
                  isSplit, hostWithin c]
            | nil =>
                cases text with
                | nil =>
                    left
                    simp [readUserInfo, isSplit, userInfoOf?, Component.encode]
                | cons c rest =>
                    right
                    simp [readUserInfo, splitUserInfo?_append within beyond,
                      isSplit, beyond c rfl]

/-! ## Host and port -/

/-- The host ends at the first colon outside of brackets, or not at all. -/
theorem splitHost_within
    {text : List Char}
    (within : IsWithin text)
    (inBrackets : Bool) :
    ∃ host port,
      text = host ++ port ∧
        (port = [] ∨ ∃ rest, port = ':' :: rest) ∧
        ∀ more, IsBeyond more →
          splitHost true inBrackets (text ++ more) = (host, port ++ more) := by
  induction text generalizing inBrackets with
  | nil =>
      refine ⟨[], [], rfl, Or.inl rfl, ?_⟩
      intro more beyond
      cases more with
      | nil => rfl
      | cons c rest => simp [splitHost, beyond c rfl]
  | cons c rest inductionHypothesis =>
      have notEnd : endsAuthority true c = false := within c List.mem_cons_self
      have restWithin : IsWithin rest :=
        fun d member => within d (List.mem_cons_of_mem _ member)
      by_cases isPort : (c = ':' && !inBrackets) = true
      · have isColon : c = ':' := by
          simpa using (Bool.and_eq_true_iff.mp isPort).1
        refine ⟨[], c :: rest, rfl, Or.inr ⟨rest, by rw [isColon]⟩, ?_⟩
        intro more beyond
        simp [splitHost, isPort]
      · obtain ⟨host, port, isText, isPort', isSplit⟩ :=
          inductionHypothesis restWithin
            (if c = '[' then true else if c = ']' then false else inBrackets)
        refine ⟨c :: host, port, by rw [isText, List.cons_append], isPort', ?_⟩
        intro more beyond
        have goesOn :
            ¬ ((c = ':' && !inBrackets) || endsAuthority true c) = true := by
          rw [notEnd, Bool.or_false]
          exact isPort
        simp only [List.cons_append, splitHost, isSplit more beyond,
          if_neg goesOn]

/-- No character that ends an authority is a digit. -/
theorem isDigit_of_endsAuthority
    {c : Char}
    (ends : endsAuthority true c = true) :
    Decimal.isDigit c = false := by
  unfold endsAuthority at ends
  simp only [Bool.or_eq_true, Bool.true_and, decide_eq_true_eq] at ends
  rcases ends with ((rfl | rfl) | rfl) | rfl <;> decide

/-- A port is digits to the end of its authority. -/
theorem readPort_of_nondigit
    {text : List Char}
    (within : IsWithin text)
    (nondigit : text.dropWhile Decimal.isDigit ≠ [])
    (more : List Char) :
    readPort (text ++ more) = .error .badPort := by
  cases isRest : text.dropWhile Decimal.isDigit with
  | nil => exact (nondigit isRest).elim
  | cons c rest =>
      have member : c ∈ text :=
        (List.dropWhile_sublist _).subset (isRest ▸ List.mem_cons_self)
      have notEnd : endsAuthority true c = false := within c member
      simp only [readPort, List.dropWhile_append, isRest, List.isEmpty_cons,
        Bool.false_eq_true, if_false, List.cons_append]
      split <;> simp_all

/-- A port is read alike with and without what follows the authority. -/
theorem readPort_append
    {text more : List Char}
    (within : IsWithin text)
    (beyond : IsBeyond more) :
    readPort (text ++ more) = (readPort text).map fun (port, _) =>
      (port, more) := by
  by_cases allDigits : text.dropWhile Decimal.isDigit = []
  · have digits := List.dropWhile_eq_nil_iff.mp allDigits
    have alone : text.takeWhile Decimal.isDigit = text :=
      List.takeWhile_eq_self_iff.mpr digits
    cases more with
    | nil =>
        simp only [readPort, List.append_nil, allDigits, alone]
        split <;> simp_all [Except.map]
    | cons c rest =>
        have ends : endsAuthority true c = true := beyond c rfl
        have notDigit := isDigit_of_endsAuthority ends
        simp only [readPort, List.takeWhile_append_of_pos digits,
          List.dropWhile_append_of_pos digits, List.takeWhile_cons,
          List.dropWhile_cons, notDigit, allDigits, alone, List.append_nil,
          Bool.false_eq_true, if_false]
        split <;> simp_all [Except.map]
  · rw [readPort_of_nondigit within allDigits more]
    have alone := readPort_of_nondigit within allDigits []
    rw [List.append_nil] at alone
    rw [alone]
    rfl

theorem readOptionalPort_append
    {text more : List Char}
    (within : IsWithin text)
    (beyond : IsBeyond more)
    (isPort : text = [] ∨ ∃ rest, text = ':' :: rest) :
    readOptionalPort (text ++ more) =
      (readOptionalPort text).map fun (port, _) => (port, more) := by
  rcases isPort with rfl | ⟨rest, rfl⟩
  · have notColon : ∀ rest, more ≠ ':' :: rest := by
      rintro rest rfl
      exact absurd (beyond ':' rfl) (by decide)
    rw [List.nil_append, readOptionalPort.eq_2 more notColon]
    rfl
  · exact readPort_append
      (fun c member => within c (List.mem_cons_of_mem _ member)) beyond

/-! ## Whole addresses -/

/-- An address is what its authority says and what is written after it. -/
theorem readWeb_append
    {authority text : List Char}
    (within : IsWithin authority)
    (beyond : IsBeyond text)
    (scheme : Scheme) :
    readWeb scheme (authority ++ text) =
      (readAuthority authority).map fun parts => parts.url scheme text := by
  obtain ⟨userInfo, host, isRead, hostWithin, -, isReadBefore⟩ :=
    readUserInfo_within within
  obtain ⟨hostText, portText, isHost, isPort, isSplit⟩ :=
    splitHost_within hostWithin false
  have alone := isSplit [] (by simp [IsBeyond])
  rw [List.append_nil, List.append_nil] at alone
  have portWithin : IsWithin portText :=
    hostWithin.of_suffix (isHost ▸ List.suffix_append _ _)
  unfold readWeb readAuthority
  rcases isReadBefore text beyond with isRead' | ⟨noHost, isRead'⟩
  · rw [isRead, isRead']
    simp only [bind, Except.bind, isSplit text beyond, alone,
      readOptionalPort_append portWithin beyond isPort]
    cases hostText.isEmpty with
    | true => rfl
    | false =>
        cases readHost hostText with
        | error fault => rfl
        | ok host =>
            cases readOptionalPort portText with
            | error fault => rfl
            | ok port => rfl
  · rw [isRead, isRead', noHost]
    rfl

/-! ## Blanks -/

/--
A byte that is no hexadecimal digit is part of no escape at the end of a text.
-/
theorem decodeBytes_append_nondigit
    {byte : UInt8}
    (notDigit : hexDigit? byte = none)
    (bytes : List UInt8) :
    decodeBytes (bytes ++ [byte]) = decodeBytes bytes ++ [byte] := by
  fun_induction decodeBytes bytes with
  | case1 => rfl
  | case2 last => rfl
  | case3 first last =>
      simp [decodeBytes, notDigit]
  | case4 second third rest high low isHigh isLow inductionHypothesis =>
      simp [decodeBytes, isLow, isHigh, inductionHypothesis]
  | case5 second third rest noEscape inductionHypothesis =>
      simp only [List.cons_append] at inductionHypothesis ⊢
      rw [decodeBytes, if_pos rfl, inductionHypothesis]
      split
      · next high low isHigh isLow =>
          exact (noEscape high low isHigh isLow).elim
      · rfl
  | case6 first second third rest notMark inductionHypothesis =>
      simp only [List.cons_append] at inductionHypothesis ⊢
      rw [decodeBytes_cons notMark, inductionHypothesis]

/-- Only an ASCII character has an ASCII byte. -/
theorem toNat_of_mem_utf8EncodeChar
    {c : Char}
    {byte : UInt8}
    (isAscii : byte.toNat < 128)
    (member : byte ∈ String.utf8EncodeChar c) :
    c.toNat = byte.toNat := by
  -- In the longer forms every byte is at least 128.
  have isCode : c.toNat = c.val.toNat := rfl
  unfold String.utf8EncodeChar at member
  extract_lets code at member
  split_ifs at member with isOneByte
  · rw [List.mem_singleton.mp member, UInt8.toNat_ofNat']
    omega
  all_goals
    simp only [List.mem_cons, List.not_mem_nil, or_false] at member
    rcases member with rfl | rfl | rfl | rfl <;>
      simp only [UInt8.toNat_ofNat'] at isAscii <;> omega

/-- No domain holds a blank or a control. -/
theorem labels?_of_trimmed
    {domain : List Char}
    {blank : Char}
    (isBlank : isTrimmed blank = true)
    (member : blank ∈ domain) :
    Domain.labels? domain = none := by
  have unmapped : Domain.mapChar? blank = none := by
    have isControl : blank.toNat ≤ 0x20 := by simpa [isTrimmed] using isBlank
    have isAscii : blank.toNat < 0x80 := by omega
    simp [Domain.mapChar?, isControl, isAscii]
  have noDomain : domain.mapM Domain.mapChar? = none := by
    induction domain with
    | nil => cases member
    | cons c rest inductionHypothesis =>
        rw [List.mapM_cons]
        rcases List.mem_cons.mp member with rfl | later
        · rw [unmapped]
          rfl
        · rw [inductionHypothesis later]
          cases Domain.mapChar? c <;> rfl
  rw [Domain.labels?, noDomain]
  rfl

section Blank

variable
  {blank : Char}
  (isBlank : isTrimmed blank = true)

include isBlank

theorem toNat_of_isTrimmed :
    blank.toNat ≤ 0x20 := by
  simpa [isTrimmed] using isBlank

theorem ne_of_isTrimmed
    {c : Char}
    (visible : isTrimmed c = false) :
    blank ≠ c := by
  rintro rfl
  rw [isBlank] at visible
  cases visible

theorem endsAuthority_of_isTrimmed :
    endsAuthority true blank = false := by
  simp [endsAuthority, ne_of_isTrimmed isBlank (c := '/') (by decide),
    ne_of_isTrimmed isBlank (c := '?') (by decide),
    ne_of_isTrimmed isBlank (c := '#') (by decide),
    ne_of_isTrimmed isBlank (c := '\\') (by decide)]

/-- A blank at the end of a text stands for itself. -/
theorem decode_append_blank
    (text : List Char) :
    decode (text ++ [blank]) = decode text ++ [UInt8.ofNat blank.toNat] := by
  have isControl := toNat_of_isTrimmed isBlank
  have isByte : (UInt8.ofNat blank.toNat).toNat = blank.toNat :=
    Text.toNat_byte (by omega)
  have notDigit : hexDigit? (UInt8.ofNat blank.toNat) = none := by
    unfold hexDigit?
    simp only [isByte]
    rw [if_neg (by omega), if_neg (by omega), if_neg (by omega)]
  unfold decode
  rw [Text.utf8_append, Text.utf8, Text.utf8, List.flatMap_singleton,
    Text.utf8EncodeChar_of_ascii (by omega),
    decodeBytes_append_nondigit notDigit]

/-- What ends in a blank is no address in brackets. -/
theorem readBrackets?_append_blank
    (text : List Char) :
    readBrackets? (text ++ [blank]) = none ∨
      readBrackets? (text ++ [blank]) = some (.error .badIpv6) := by
  cases text with
  | nil =>
      have notOpen : blank ≠ '[' := ne_of_isTrimmed isBlank (by decide)
      left
      simp [readBrackets?, notOpen]
  | cons c rest =>
      by_cases opens : c = '['
      · have notClosed : blank ≠ ']' := ne_of_isTrimmed isBlank (by decide)
        right
        simp [readBrackets?, opens, notClosed]
      · left
        simp [readBrackets?, opens]

/-- A text that ends in a blank stands for no domain. -/
theorem labels?_append_blank
    (text : List Char) :
    (Text.readUtf8? (decode (text ++ [blank]))).bind Domain.labels? = none := by
  cases isRead : Text.readUtf8? (decode (text ++ [blank])) with
  | none => rfl
  | some domain =>
      have sameBytes :
          Text.utf8 domain = decode text ++ [UInt8.ofNat blank.toNat] := by
        rw [← decode_append_blank isBlank]
        exact Text.readUtf8?_eq_some_iff.mp isRead
      have isControl := toNat_of_isTrimmed isBlank
      have isByte : (UInt8.ofNat blank.toNat).toNat = blank.toNat :=
        Text.toNat_byte (by omega)
      have inBytes : UInt8.ofNat blank.toNat ∈ Text.utf8 domain := by
        simp [sameBytes]
      obtain ⟨c, inDomain, inChar⟩ := List.mem_flatMap.mp inBytes
      have sameCode := toNat_of_mem_utf8EncodeChar (by omega) inChar
      have isBlank' : isTrimmed c = true := by
        rw [isTrimmed, sameCode, isByte]
        exact isBlank
      exact labels?_of_trimmed isBlank' inDomain

/-- No host ends in a blank. -/
theorem readHost_append_blank
    (text : List Char)
    (host : Host) :
    readHost (text ++ [blank]) ≠ .ok host := by
  unfold readHost
  rw [labels?_append_blank isBlank]
  rcases readBrackets?_append_blank isBlank text with noBrackets | badBrackets
  · simp [noBrackets]
  · simp [badBrackets]

/-- What follows a mark ends in the blank that the whole text ends in. -/
theorem ends_of_append_blank
    {mark : Char}
    (visible : isTrimmed mark = false)
    {front back text : List Char}
    (same : text ++ [blank] = front ++ mark :: back) :
    ∃ before, back = before ++ [blank] := by
  rcases List.eq_nil_or_concat back with rfl | ⟨before, last, rfl⟩
  · have isMark : blank = mark := by
      simpa using (List.append_inj_right' same rfl)
    exact (ne_of_isTrimmed isBlank visible isMark).elim
  · refine ⟨before, ?_⟩
    have regrouped : text ++ [blank] = (front ++ mark :: before) ++ [last] := by
      simpa using same
    have isLast : [blank] = [last] := List.append_inj_right' regrouped rfl
    rw [List.concat_eq_append, isLast]

/--
No authority ends in a blank: it would be the last character of the host or of
the port.
-/
theorem readAuthority_append_blank
    {text : List Char}
    (within : IsWithin (text ++ [blank]))
    (authority : Authority) :
    readAuthority (text ++ [blank]) ≠ .ok authority := by
  obtain ⟨userInfo, host, isRead, hostWithin, parts, -⟩ :=
    readUserInfo_within within
  obtain ⟨before, isHost⟩ : ∃ before, host = before ++ [blank] := by
    rcases parts with same | ⟨info, same⟩
    · exact ⟨text, same.symm⟩
    · exact ends_of_append_blank isBlank (by decide) same
  obtain ⟨hostText, portText, isSplit, isPort, splits⟩ :=
    splitHost_within hostWithin false
  have alone := splits [] (by simp [IsBeyond])
  rw [List.append_nil, List.append_nil] at alone
  unfold readAuthority
  rw [isRead]
  simp only [bind, Except.bind, alone]
  rcases isPort with noPort | ⟨rest, isPort⟩
  · rw [noPort, List.append_nil] at isSplit
    rw [← isSplit, isHost]
    cases isRead : readHost (before ++ [blank]) with
    | error fault => simp
    | ok readHost => exact (readHost_append_blank isBlank before _ isRead).elim
  · rw [isPort] at isSplit
    obtain ⟨digits, isRest⟩ :=
      ends_of_append_blank isBlank (by decide) (isHost ▸ isSplit)
    have notDigit : Decimal.isDigit blank = false := by
      have isControl := toNat_of_isTrimmed isBlank
      have belowDigits : ¬ '0' ≤ blank := by
        rw [Char.le_def, UInt32.le_iff_toNat_le]
        exact Nat.not_le_of_lt (Nat.lt_of_le_of_lt isControl (by decide))
      simp [Decimal.isDigit, Decimal.digit?, belowDigits]
    have nondigit : rest.dropWhile Decimal.isDigit ≠ [] := by
      rw [isRest, ne_eq, List.dropWhile_eq_nil_iff]
      intro digits
      exact absurd (digits blank (by simp)) (by simp [notDigit])
    have restWithin : IsWithin rest :=
      hostWithin.of_suffix (isSplit ▸ ⟨hostText ++ [':'], by simp⟩)
    have noPort : readOptionalPort (':' :: rest) = .error .badPort := by
      rw [readOptionalPort, ← List.append_nil rest]
      exact readPort_of_nondigit restWithin nondigit []
    rw [isPort, noPort]
    cases hostText.isEmpty with
    | true => simp
    | false => cases readHost hostText <;> simp

end Blank

/-- An authority that goes on with blanks is that of no address. -/
theorem readWeb_append_blanks
    {scheme : Scheme}
    {authority others : List Char}
    {blank : Char}
    {text : List Char}
    (within : IsWithin authority)
    (areBlanks : ∀ c ∈ others ++ [blank], isTrimmed c = true)
    (beyond : IsBeyond text)
    (url : Url) :
    readWeb scheme (authority ++ (others ++ [blank] ++ text)) ≠ .ok url := by
  have isBlank : isTrimmed blank = true := areBlanks blank (by simp)
  have longerWithin : IsWithin (authority ++ others ++ [blank]) := by
    rw [List.append_assoc]
    exact List.forall_mem_append.mpr
      ⟨within, fun c member => endsAuthority_of_isTrimmed (areBlanks c member)⟩
  have regrouped :
      authority ++ (others ++ [blank] ++ text) =
        authority ++ others ++ [blank] ++ text := by
    simp
  rw [regrouped, readWeb_append longerWithin beyond]
  cases isRead : readAuthority (authority ++ others ++ [blank]) with
  | error fault => exact fun isOk => by cases isOk
  | ok parts =>
      exact (readAuthority_append_blank isBlank longerWithin parts isRead).elim

end WorkflowQueue.Url
