import WorkflowQueue.Proofs.Text.Split
import WorkflowQueue.Proofs.Url.Authority

namespace WorkflowQueue.Url

/-!
# Slashes at the end of an address

The root of a queue is read without the slashes at its end. As long as these
slashes belong to the path, the root agrees in everything else with the address
that is written: what is before the path ends at the first slash, and no blank
can stand before that one.
-/

/-! ## Segments of paths -/

/-- Path segments in which no slash stands. -/
def AreSegments
    (path : List (List Char)) :
    Prop :=
  ∀ segment ∈ path, '/' ∉ segment

namespace AreSegments

variable
  {taken path rest : List (List Char)}
  {segment : List Char}

theorem append
    (first : AreSegments taken)
    (second : AreSegments path) :
    AreSegments (taken ++ path) :=
  List.forall_mem_append.mpr ⟨first, second⟩

theorem of_cons
    (areSegments : AreSegments (segment :: rest)) :
    '/' ∉ segment ∧ AreSegments rest :=
  List.forall_mem_cons.mp areSegments

theorem of_undivided
    (undivided : '/' ∉ segment) :
    AreSegments [segment] :=
  List.forall_mem_singleton.mpr undivided

theorem of_nothing :
    AreSegments [[]] :=
  of_undivided List.not_mem_nil

theorem placeAbove
    (areSegments : AreSegments path) :
    AreSegments (placeAbove path) := by
  unfold Url.placeAbove
  split
  · exact areSegments
  · exact fun segment member =>
      areSegments segment ((List.dropLast_sublist path).subset member)

/-- A path is resolved to some of its segments, and empty ones. -/
theorem resolvePath
    (takenAre : AreSegments taken)
    (areSegments : AreSegments path) :
    AreSegments (resolvePath taken path) := by
  fun_induction Url.resolvePath taken path with
  | case1 taken => exact takenAre
  | case2 taken last isAbove => exact takenAre.placeAbove.append of_nothing
  | case3 taken last notAbove isThis => exact takenAre.append of_nothing
  | case4 taken last notAbove notThis => exact takenAre.append areSegments
  | case5 taken first rest notLast isAbove inductionHypothesis =>
      exact inductionHypothesis takenAre.placeAbove areSegments.of_cons.2
  | case6 taken first rest notLast notAbove isThis inductionHypothesis =>
      exact inductionHypothesis takenAre areSegments.of_cons.2
  | case7 taken first rest notLast notAbove notThis inductionHypothesis =>
      exact inductionHypothesis
        (takenAre.append (of_undivided areSegments.of_cons.1))
        areSegments.of_cons.2

end AreSegments

theorem encode_path_ne_slash
    {text : List Char}
    (undivided : '/' ∉ text) :
    '/' ∉ Component.path.encode text := by
  intro member
  rcases mem_encode member with ⟨inText, -⟩ | isMark | ⟨value, isDigit⟩
  · exact undivided inText
  · cases isMark
  · exact upperHexDigit_ne (by decide) value isDigit.symm

/-- A path is read as segments. -/
theorem areSegments_readPath
    (text : List Char) :
    AreSegments (readPath text) := by
  refine AreSegments.resolvePath (by simp [AreSegments]) ?_
  intro segment member
  obtain ⟨piece, isPiece, rfl⟩ := List.mem_map.mp member
  exact encode_path_ne_slash (Text.undivided_of_mem_splitOn isPiece)

/-! ## Reading with slashes at the end -/

/-- Two addresses that agree in everything but their paths. -/
structure SameBesidesPath
    (first second : Url) : Prop where
  scheme : first.scheme = second.scheme
  userInfo : first.userInfo = second.userInfo
  host : first.host = second.host
  port : first.port = second.port
  query : first.query = second.query
  fragment : first.fragment = second.fragment

theorem SameBesidesPath.refl
    (url : Url) :
    url.SameBesidesPath url :=
  ⟨rfl, rfl, rfl, rfl, rfl, rfl⟩

/--
What follows an authority and holds no question or number sign is all path.
-/
theorem Authority.sameBesidesPath
    (authority : Authority)
    (scheme : Scheme)
    {text other : List Char}
    (isPath : ∀ c ∈ text, c ≠ '?' ∧ c ≠ '#')
    (otherIsPath : ∀ c ∈ other, c ≠ '?' ∧ c ≠ '#') :
    (authority.url scheme text).SameBesidesPath
      (authority.url scheme other) := by
  have afterPath : ∀ {path : List Char}, (∀ c ∈ path, c ≠ '?' ∧ c ≠ '#') →
      path.dropWhile (fun c => c ≠ '?' && c ≠ '#') = [] := by
    intro path isPath
    exact List.dropWhile_eq_nil_iff.mpr (by simpa using isPath)
  unfold Authority.url
  rw [afterPath isPath, afterPath otherIsPath]
  exact ⟨rfl, rfl, rfl, rfl, rfl, rfl⟩

/-- Blanks at the end of a text count when slashes follow them. -/
theorem significant_append
    {text slashes : List Char}
    (visible : text.dropWhile isTrimmed ≠ [])
    (areSlashes : ∀ c ∈ slashes, c = '/')
    (notEmpty : slashes ≠ []) :
    ∃ blanks, (∀ c ∈ blanks, isTrimmed c = true) ∧
      significant (text ++ slashes) =
        significant text ++ (blanks ++ slashes) := by
  obtain ⟨front, isFront⟩ :
      ∃ front, front = text.dropWhile isTrimmed := ⟨_, rfl⟩
  have notBlank : front.isEmpty = false := by
    simpa [isFront] using visible
  have blanksAtEnd :
      front =
        (front.reverse.dropWhile isTrimmed).reverse ++
          (front.reverse.takeWhile isTrimmed).reverse := by
    rw [← List.reverse_append, List.takeWhile_append_dropWhile,
      List.reverse_reverse]
  have keptSlashes : (slashes.reverse ++ front.reverse).dropWhile isTrimmed =
      slashes.reverse ++ front.reverse := by
    cases backwards : slashes.reverse with
    | nil => exact (notEmpty (List.reverse_eq_nil_iff.mp backwards)).elim
    | cons c rest =>
        have isSlash : c = '/' :=
          areSlashes c (List.mem_reverse.mp (by simp [backwards]))
        rw [isSlash]
        rfl
  have noneDropped : slashes.filter (fun c => !isDropped c) = slashes := by
    rw [List.filter_eq_self]
    intro c member
    rw [areSlashes c member]
    rfl
  have isSignificant :
      significant (text ++ slashes) = (front ++ slashes).filter fun c =>
        !isDropped c := by
    simp only [significant, List.dropWhile_append, ← isFront, notBlank,
      Bool.false_eq_true, if_false, List.reverse_append, keptSlashes,
      List.reverse_reverse]
  refine ⟨(front.reverse.takeWhile isTrimmed).reverse.filter fun c =>
    !isDropped c, ?_, ?_⟩
  · intro c member
    exact List.mem_takeWhile_imp
      (List.mem_reverse.mp (List.mem_of_mem_filter member))
  · rw [isSignificant, List.filter_append, noneDropped, ← List.append_assoc,
      significant, ← isFront, ← List.filter_append, ← blanksAtEnd]

/--
What is read before the colon of a scheme does not depend on what follows.
-/
theorem splitScheme?_append
    {text name rest : List Char}
    (isSplit : splitScheme? text = some (name, rest))
    (more : List Char) :
    splitScheme? (text ++ more) = some (name, rest ++ more) := by
  cases text with
  | nil => cases isSplit
  | cons c tail =>
      simp only [splitScheme?, List.cons_append] at isSplit ⊢
      split at isSplit
      case isFalse notLetter => cases isSplit
      case isTrue isLetter =>
        rw [if_pos isLetter, ← List.cons_append, List.takeWhile_append,
          List.dropWhile_append]
        split at isSplit
        · next after isAfter =>
            have notAll : ((c :: tail).takeWhile isSchemeChar).length ≠
                (c :: tail).length := by
              have cut : ((c :: tail).takeWhile isSchemeChar).length +
                  ((c :: tail).dropWhile isSchemeChar).length =
                    (c :: tail).length := by
                rw [← List.length_append, List.takeWhile_append_dropWhile]
              rw [isAfter, List.length_cons] at cut
              omega
            cases isSplit
            rw [if_neg notAll, isAfter]
            rfl
        · cases isSplit

/--
An address that is read has a scheme of the web, and its rest is one with an
authority.
-/
theorem read_eq_ok_iff
    {text : List Char}
    {url : Url} :
    read text = .ok url ↔
      ∃ name rest scheme,
        splitScheme? (significant text) = some (name, rest) ∧
          schemeKind name = .web scheme ∧
          readWeb scheme (rest.dropWhile fun c => c = '/' || c = '\\') =
            .ok url := by
  unfold read
  constructor
  · intro isRead
    split at isRead
    · cases isRead
    · next name rest isSplit =>
        dsimp only at isRead
        split at isRead
        · next scheme isKind =>
            exact ⟨name, rest, scheme, isSplit, isKind, isRead⟩
        all_goals cases isRead
  · rintro ⟨name, rest, scheme, isSplit, isKind, isRead⟩
    simp only [isSplit, isKind, isRead]

/-- Something is read only where not everything is blank. -/
theorem visible_of_read
    {text : List Char}
    {url : Url}
    (isRead : read text = .ok url) :
    text.dropWhile isTrimmed ≠ [] := by
  obtain ⟨name, rest, scheme, isSplit, -⟩ := read_eq_ok_iff.mp isRead
  intro allBlank
  rw [significant, allBlank] at isSplit
  cases isSplit

/-- The authority of an address and what follows it. -/
theorem readWeb_eq_ok
    {scheme : Scheme}
    {text : List Char}
    {url : Url}
    (isRead : readWeb scheme text = .ok url) :
    ∃ front back authority,
      text = front ++ back ∧ IsWithin front ∧ IsBeyond back ∧
        readAuthority front = .ok authority ∧
        url = authority.url scheme back := by
  obtain ⟨front, isFront⟩ :
      ∃ front, front = text.takeWhile fun c => !endsAuthority true c := ⟨_, rfl⟩
  obtain ⟨back, isBack⟩ :
      ∃ back, back = text.dropWhile fun c => !endsAuthority true c := ⟨_, rfl⟩
  have parts : text = front ++ back := by
    rw [isFront, isBack, List.takeWhile_append_dropWhile]
  have within : IsWithin front := isFront ▸ isWithin_takeWhile text
  have beyond : IsBeyond back := isBack ▸ isBeyond_dropWhile text
  rw [parts, readWeb_append within beyond] at isRead
  cases isAuthority : readAuthority front with
  | error fault =>
      rw [isAuthority] at isRead
      cases isRead
  | ok authority =>
      rw [isAuthority] at isRead
      cases isRead
      exact ⟨front, back, authority, parts, within, beyond, isAuthority, rfl⟩

/-- The path of an address that is read is made of segments. -/
theorem areSegments_of_read
    {text : List Char}
    {url : Url}
    (isRead : read text = .ok url) :
    AreSegments url.path := by
  obtain ⟨name, rest, scheme, -, -, isWeb⟩ := read_eq_ok_iff.mp isRead
  obtain ⟨front, back, authority, -, -, -, -, isUrl⟩ := readWeb_eq_ok isWeb
  rw [isUrl]
  exact areSegments_readPath _

theorem mem_of_mem_significant
    {text : List Char}
    {c : Char}
    (member : c ∈ significant text) :
    c ∈ text := by
  have inTrimmed := List.mem_reverse.mp (List.mem_of_mem_filter member)
  have inFront :=
    List.mem_reverse.mp ((List.dropWhile_sublist _).subset inTrimmed)
  exact (List.dropWhile_sublist _).subset inFront

theorem mem_of_splitScheme?
    {text name rest : List Char}
    (isSplit : splitScheme? text = some (name, rest))
    {c : Char}
    (member : c ∈ rest) :
    c ∈ text := by
  unfold splitScheme? at isSplit
  split at isSplit
  · cases isSplit
  · split at isSplit
    · split at isSplit
      · next after isAfter =>
          cases isSplit
          exact (List.dropWhile_sublist _).subset
            (isAfter ▸ List.mem_cons_of_mem _ member)
      · cases isSplit
    · cases isSplit

/--
After blanks and slashes, an address without query and fragment differs in its
path only.
-/
theorem sameBesidesPath_of_readWeb
    {scheme : Scheme}
    {text blanks slashes : List Char}
    (areBlanks : ∀ c ∈ blanks, isTrimmed c = true)
    (areSlashes : ∀ c ∈ slashes, c = '/')
    (isPath : ∀ c ∈ text, c ≠ '?' ∧ c ≠ '#')
    {url given : Url}
    (isRead : readWeb scheme text = .ok url)
    (isGiven : readWeb scheme (text ++ (blanks ++ slashes)) = .ok given) :
    url.SameBesidesPath given := by
  obtain ⟨front, back, authority, parts, within, beyond, isAuthority, isUrl⟩ :=
    readWeb_eq_ok isRead
  have beyondSlashes : IsBeyond slashes := by
    intro c isFirst
    rw [areSlashes c (List.mem_of_mem_head? isFirst)]
    rfl
  have beyondAll : IsBeyond (back ++ (blanks ++ slashes)) := by
    cases back with
    | cons c rest => simpa [IsBeyond] using beyond
    | nil =>
        rcases List.eq_nil_or_concat blanks with
          noBlanks | ⟨others, blank, isBlanks⟩
        · simpa [noBlanks] using beyondSlashes
        -- The authority would go on with the blanks, and could not be read.
        · rw [List.append_nil] at parts
          rw [parts, isBlanks, List.concat_eq_append] at isGiven
          rw [isBlanks, List.concat_eq_append] at areBlanks
          exact (readWeb_append_blanks within areBlanks beyondSlashes given
            isGiven).elim
  rw [parts, List.append_assoc, readWeb_append within beyondAll, isAuthority]
    at isGiven
  have givenUrl : authority.url scheme (back ++ (blanks ++ slashes)) = given :=
    Except.ok.inj isGiven
  have backIsPath : ∀ c ∈ back, c ≠ '?' ∧ c ≠ '#' := fun c member =>
    isPath c (by simp [parts, member])
  have blanksArePath : ∀ c ∈ blanks, c ≠ '?' ∧ c ≠ '#' := fun c member =>
    ⟨ne_of_isTrimmed (areBlanks c member) (by decide),
      ne_of_isTrimmed (areBlanks c member) (by decide)⟩
  have slashesArePath : ∀ c ∈ slashes, c ≠ '?' ∧ c ≠ '#' := fun c member => by
    rw [areSlashes c member]
    decide
  rw [isUrl, ← givenUrl]
  exact authority.sameBesidesPath scheme backIsPath
    (List.forall_mem_append.mpr
      ⟨backIsPath, List.forall_mem_append.mpr ⟨blanksArePath, slashesArePath⟩⟩)

/--
Slashes at the end of an address that has nothing but a path change nothing but
the path.
-/
theorem sameBesidesPath_of_slashes
    {text slashes : List Char}
    (areSlashes : ∀ c ∈ slashes, c = '/')
    (isPath : slashes ≠ [] → ∀ c ∈ text, c ≠ '?' ∧ c ≠ '#')
    {url given : Url}
    (isRead : read text = .ok url)
    (isGiven : read (text ++ slashes) = .ok given) :
    url.SameBesidesPath given := by
  by_cases notEmpty : slashes = []
  · rw [notEmpty, List.append_nil, isRead] at isGiven
    cases isGiven
    exact .refl url
  obtain ⟨blanks, areBlanks, isLonger⟩ :=
    significant_append (visible_of_read isRead) areSlashes notEmpty
  obtain ⟨name, rest, scheme, isSplit, isKind, isWeb⟩ :=
    read_eq_ok_iff.mp isRead
  obtain ⟨name', rest', scheme', isSplit', isKind', isWeb'⟩ :=
    read_eq_ok_iff.mp isGiven
  rw [isLonger, splitScheme?_append isSplit] at isSplit'
  cases isSplit'
  rw [isKind] at isKind'
  cases isKind'
  have somethingLeft :
      (rest.dropWhile fun c => c = '/' || c = '\\').isEmpty = false := by
    cases left : rest.dropWhile fun c => c = '/' || c = '\\' with
    | nil =>
        rw [left] at isWeb
        cases isWeb
    | cons c more => rfl
  rw [List.dropWhile_append, somethingLeft] at isWeb'
  refine sameBesidesPath_of_readWeb areBlanks areSlashes ?_ isWeb isWeb'
  intro c member
  have inRest := (List.dropWhile_sublist _).subset member
  exact isPath notEmpty c
    (mem_of_mem_significant (mem_of_splitScheme? isSplit inRest))

/-! ## Written roots -/

theorem trimSlashes_append
    (text : List Char)
    (count : Nat) :
    trimSlashes (text ++ List.replicate count '/') = trimSlashes text := by
  unfold trimSlashes
  rw [List.reverse_append, List.reverse_replicate,
    List.dropWhile_append_of_pos fun c member => by
      simpa using List.eq_of_mem_replicate member]

/-- The slashes at the end of a written root do not count. -/
theorem ofText_append_slashes
    (text : String)
    (count : Nat) :
    ofText (text ++ String.ofList (List.replicate count '/')) =
      ofText text := by
  unfold ofText
  rw [String.toList_append, String.toList_ofList, trimSlashes_append]

/--
What is trimmed from a root is slashes, and there are some only if its text ends
in one.
-/
theorem exists_slashes
    (text : List Char) :
    ∃ slashes,
      text = trimSlashes text ++ slashes ∧
        (∀ c ∈ slashes, c = '/') ∧
        (slashes ≠ [] → text.getLast? = some '/') := by
  refine ⟨(text.reverse.takeWhile (· = '/')).reverse, ?_, ?_, ?_⟩
  · rw [trimSlashes, ← List.reverse_append, List.takeWhile_append_dropWhile,
      List.reverse_reverse]
  · intro c member
    simpa using List.mem_takeWhile_imp (List.mem_reverse.mp member)
  · intro notEmpty
    cases backwards : text.reverse with
    | nil => simp [backwards] at notEmpty
    | cons c rest =>
        have isSlash : c = '/' := by
          by_contra notSlash
          simp [backwards, notSlash] at notEmpty
        rw [List.getLast?_eq_head?_reverse, backwards, isSlash]
        rfl

/--
A root agrees with the address that is written in everything but the path.
-/
theorem sameBesidesPath_of_ofText
    {text : String}
    (endsInPath :
      text.toList.getLast? = some '/' → ∀ c ∈ text.toList, c ≠ '?' ∧ c ≠ '#')
    {url given : Url}
    (isRead : ofText text = .ok url)
    (isGiven : read text.toList = .ok given) :
    url.SameBesidesPath given := by
  obtain ⟨slashes, isText, areSlashes, isLast⟩ := exists_slashes text.toList
  refine sameBesidesPath_of_slashes areSlashes ?_ isRead (isText ▸ isGiven)
  intro notEmpty c member
  exact endsInPath (isLast notEmpty) c (by rw [isText]; simp [member])

end WorkflowQueue.Url
