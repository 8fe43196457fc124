import Mathlib.Data.List.Basic

-- Python's regular expressions over characters: what they match between the text before
-- and the text after, the backtracking matcher, and the replacement of its matches. The
-- text before a place is kept last character first.
inductive Regex where
  | empty
  | one (accepts : Char → Bool)
  | boundary
  | seq (first second : Regex)
  | alt (first second : Regex)
  | repeated (lazy : Bool) (least : Nat) (most : Option Nat) (body : Regex)

namespace Regex
variable (word : Char → Bool)

-- A word begins or ends here.
def edge (before after : Option Char) : Bool := before.any word != after.any word

def copies (matched : List Char → List Char → List Char → Prop) : Nat → List Char → List Char → List Char → Prop
  | 0,_,m,_ => m = []
  | n + 1,back,m,rest => ∃ x y, m = x ++ y ∧ matched back x (y ++ rest) ∧ copies matched n (x.reverse ++ back) y rest

def Matches : Regex → List Char → List Char → List Char → Prop
  | .empty,_,m,_ => m = []
  | .one accepts,_,m,_ => ∃ c, m = [c] ∧ accepts c = true
  | .boundary,back,m,rest => m = [] ∧ edge word back.head? rest.head? = true
  | .seq first second,back,m,rest => ∃ x y, m = x ++ y ∧ first.Matches back x (y ++ rest) ∧ second.Matches (x.reverse ++ back) y rest
  | .alt first second,back,m,rest => first.Matches back m rest ∨ second.Matches back m rest
  | .repeated _ least most body,back,m,rest =>
    ∃ more, (∀ n ∈ most, more ≤ n - least) ∧ copies body.Matches (least + more) back m rest

-- What the matcher finds: each way to match from a place, as the text matched and the text
-- left, the preferred one first.
abbrev Ways := List (List Char × List Char)

def andThen (found : Ways) (back : List Char) (next : List Char → List Char → Ways) : Ways :=
  found.flatMap fun way => (next (way.1.reverse ++ back) way.2).map fun more => (way.1 ++ more.1,more.2)

def times (body : List Char → List Char → Ways) : Nat → List Char → List Char → Ways
  | 0,_,text => [([],text)]
  | n + 1,back,text => andThen (body back text) back (times body n)

def upTo (lazy : Bool) (body : List Char → List Char → Ways) : Nat → List Char → List Char → Ways
  | 0,_,text => [([],text)]
  | n + 1,back,text =>
    if lazy then ([],text) :: andThen (body back text) back (upTo lazy body n)
    else andThen (body back text) back (upTo lazy body n) ++ [([],text)]

def ways : Regex → List Char → List Char → Ways
  | .empty,_,text => [([],text)]
  | .one _,_,[] => []
  | .one accepts,_,c :: text => if accepts c then [([c],text)] else []
  | .boundary,back,text => if edge word back.head? text.head? then [([],text)] else []
  | .seq first second,back,text => andThen (first.ways back text) back second.ways
  | .alt first second,back,text => first.ways back text ++ second.ways back text
  | .repeated lazy least most body,back,text =>
    andThen (times body.ways least back text) back fun back text =>
      upTo lazy body.ways (match most with | some n => n - least | none => text.length) back text

def exactly (c : Char) : Regex := .one fun d => decide (d = c)

def oneOf (chars : List Char) : Regex := .one fun c => chars.contains c

def someOf (r : Regex) : Regex := .repeated false 1 none r

def manyOf (r : Regex) : Regex := .repeated false 0 none r

def maybe (r : Regex) : Regex := .repeated false 0 (some 1) r

-- Under IGNORECASE four letters beyond ASCII count as i, s and k.
def foldCase (c : Char) : Char :=
  if c = '\u0130' ∨ c = '\u0131' then 'i'
  else if c = '\u017F' then 's'
  else if c = '\u212A' then 'k'
  else c.toLower

def anyCase (chars : List Char) : Regex := chars.foldr (fun c rest => .seq (.one fun d => decide (foldCase d = c)) rest) .empty

def letter (c : Char) : Bool := (foldCase c).isLower

-- pattern.search: whether there is a match at this place or a later one.
def search (r : Regex) : List Char → List Char → Bool
  | back,[] => !(r.ways word back []).isEmpty
  | back,c :: text => !(r.ways word back (c :: text)).isEmpty || search r (c :: back) text

-- pattern.sub: from left to right, each preferred match is replaced; after an empty one the
-- next character is kept. The number counts the characters of a match still to be left out.
def sub (r : Regex) (replacement : List Char) : Nat → List Char → List Char → List Char
  | 0,back,[] => if (r.ways word back []).isEmpty then [] else replacement
  | _ + 1,_,[] => []
  | skip + 1,back,c :: text => sub r replacement skip (c :: back) text
  | 0,back,c :: text =>
    match (r.ways word back (c :: text)).head? with
    | none => c :: sub r replacement 0 (c :: back) text
    | some ([],_) => replacement ++ c :: sub r replacement 0 (c :: back) text
    | some (_ :: more,_) => replacement ++ sub r replacement more.length (c :: back) text

-- Somewhere in the text there is a match.
def Occurs (r : Regex) (back text : List Char) : Prop :=
  ∃ p m rest, text = p ++ (m ++ rest) ∧ r.Matches word (p.reverse ++ back) m rest

section Matcher

-- A matcher finds exactly the ways there are.
def Finds (find : List Char → List Char → Ways) (matched : List Char → List Char → List Char → Prop) : Prop :=
  ∀ back text m rest, (m,rest) ∈ find back text ↔ text = m ++ rest ∧ matched back m rest

theorem mem_nothing (text m rest : List Char) : (m,rest) ∈ [(([] : List Char),text)] ↔ text = m ++ rest ∧ m = [] := by
  rw [List.mem_singleton,Prod.mk.injEq]
  constructor
  · intro both
    obtain ⟨rfl,rfl⟩ := both
    exact ⟨rfl,rfl⟩
  · intro both
    obtain ⟨rfl,rfl⟩ := both
    exact ⟨rfl,rfl⟩

theorem mem_andThen (found : Ways) (back : List Char) (next : List Char → List Char → Ways) :
    (m,rest) ∈ andThen found back next ↔ ∃ x left y, (x,left) ∈ found ∧ (y,rest) ∈ next (x.reverse ++ back) left ∧ m = x ++ y := by
  unfold andThen
  rw [List.mem_flatMap]
  constructor
  · intro given
    obtain ⟨⟨x,left⟩,first,member⟩ := given
    obtain ⟨⟨y,other⟩,second,same⟩ := List.mem_map.mp member
    cases same
    exact ⟨x,left,y,first,second,rfl⟩
  · intro given
    obtain ⟨x,left,y,first,second,rfl⟩ := given
    exact ⟨(x,left),first,List.mem_map.mpr ⟨(y,rest),second,rfl⟩⟩

variable {body : List Char → List Char → Ways} {matched : List Char → List Char → List Char → Prop}

theorem finds_andThen {next : List Char → List Char → Ways} {follows : List Char → List Char → List Char → Prop}
    (first : Finds body matched) (second : Finds next follows) (back text m rest : List Char) :
    (m,rest) ∈ andThen (body back text) back next ↔
      text = m ++ rest ∧ ∃ x y, m = x ++ y ∧ matched back x (y ++ rest) ∧ follows (x.reverse ++ back) y rest := by
  rw [mem_andThen]
  constructor
  · intro given
    obtain ⟨x,left,y,early,late,rfl⟩ := given
    obtain ⟨split,begins⟩ := (first back text x left).mp early
    obtain ⟨again,ends⟩ := (second _ left y rest).mp late
    rw [again] at split begins
    exact ⟨by rw [split,List.append_assoc],x,y,rfl,begins,ends⟩
  · intro given
    obtain ⟨split,x,y,rfl,begins,ends⟩ := given
    refine ⟨x,y ++ rest,y,?_,?_,rfl⟩
    · exact (first back text x _).mpr ⟨by rw [split,List.append_assoc],begins⟩
    · exact (second _ _ y rest).mpr ⟨rfl,ends⟩

theorem finds_times (first : Finds body matched) (n : Nat) : Finds (times body n) (copies matched n) := by
  induction n with
  | zero => exact fun back text m rest => mem_nothing text m rest
  | succ n ih => exact fun back text m rest => finds_andThen first ih back text m rest

theorem mem_upTo_succ (lazy : Bool) (n : Nat) (back text : List Char) :
    (m,rest) ∈ upTo lazy body (n + 1) back text ↔
      (m,rest) ∈ [([],text)] ∨ (m,rest) ∈ andThen (body back text) back (upTo lazy body n) := by
  unfold upTo
  cases lazy with
  | true => rw [if_pos rfl,List.mem_cons,List.mem_singleton]
  | false => rw [if_neg (by decide),List.mem_append,or_comm]

theorem finds_upTo (lazy : Bool) (first : Finds body matched) (n : Nat) :
    Finds (upTo lazy body n) fun back m rest => ∃ k ≤ n, copies matched k back m rest := by
  induction n with
  | zero =>
    intro back text m rest
    refine (mem_nothing text m rest).trans ?_
    constructor
    · intro given
      obtain ⟨split,nothing⟩ := given
      exact ⟨split,0,Nat.le_refl _,nothing⟩
    · intro given
      obtain ⟨split,k,none,copied⟩ := given
      obtain rfl := Nat.le_zero.mp none
      exact ⟨split,copied⟩
  | succ n ih =>
    intro back text m rest
    rw [mem_upTo_succ,finds_andThen first ih,mem_nothing]
    constructor
    · intro given
      rcases given with ⟨split,nothing⟩ | ⟨split,x,y,whole,begins,k,few,copied⟩
      · exact ⟨split,0,Nat.zero_le _,nothing⟩
      · exact ⟨split,k + 1,Nat.succ_le_succ few,x,y,whole,begins,copied⟩
    · intro given
      obtain ⟨split,k,few,copied⟩ := given
      cases k with
      | zero => exact .inl ⟨split,copied⟩
      | succ k =>
        obtain ⟨x,y,whole,begins,later⟩ := copied
        exact .inr ⟨split,x,y,whole,begins,k,Nat.le_of_succ_le_succ few,later⟩

theorem copies_add (a b : Nat) (back m rest : List Char) : copies matched (a + b) back m rest ↔
    ∃ x y, m = x ++ y ∧ copies matched a back x (y ++ rest) ∧ copies matched b (x.reverse ++ back) y rest := by
  induction a generalizing back m with
  | zero =>
    rw [Nat.zero_add]
    constructor
    · intro copied
      exact ⟨[],m,rfl,rfl,copied⟩
    · intro given
      obtain ⟨x,y,rfl,rfl,copied⟩ := given
      exact copied
  | succ a ih =>
    rw [Nat.succ_add]
    constructor
    · intro given
      obtain ⟨x,more,rfl,begins,later⟩ := given
      obtain ⟨y,z,rfl,middle,ends⟩ := (ih _ _).mp later
      refine ⟨x ++ y,z,by rw [List.append_assoc],⟨x,y,rfl,by rwa [List.append_assoc] at begins,middle⟩,?_⟩
      rwa [List.reverse_append,List.append_assoc]
    · intro given
      obtain ⟨front,z,rfl,⟨x,y,rfl,begins,middle⟩,ends⟩ := given
      refine ⟨x,y ++ z,by rw [List.append_assoc],by rwa [List.append_assoc],(ih _ _).mpr ⟨y,z,rfl,middle,?_⟩⟩
      rwa [List.reverse_append,List.append_assoc] at ends

theorem copies_one (accepts : Char → Bool) (n : Nat) (back m rest : List Char) :
    copies ((Regex.one accepts).Matches word) n back m rest ↔ m.length = n ∧ ∀ c ∈ m, accepts c = true := by
  induction n generalizing back m with
  | zero =>
    constructor
    · intro nothing
      cases nothing
      exact ⟨rfl,List.forall_mem_nil _⟩
    · intro ⟨short,_⟩
      exact List.length_eq_zero_iff.mp short
  | succ n ih =>
    constructor
    · intro ⟨x,y,split,⟨c,single,accepted⟩,later⟩
      obtain ⟨short,all⟩ := (ih _ _).mp later
      rw [split,single]
      exact ⟨by simp [short],List.forall_mem_cons.mpr ⟨accepted,all⟩⟩
    · intro ⟨long,all⟩
      cases m with
      | nil => cases long
      | cons c m =>
        obtain ⟨accepted,others⟩ := List.forall_mem_cons.mp all
        exact ⟨[c],m,rfl,⟨c,rfl,accepted⟩,(ih _ _).mpr ⟨Nat.succ.inj long,others⟩⟩

-- Blocks that match wherever they stand.
theorem copies_blocks {matched : List Char → List Char → List Char → Prop} (blocks : List (List Char))
    (each : ∀ block ∈ blocks, ∀ back rest, matched back block rest) (back rest : List Char) :
    copies matched blocks.length back blocks.flatten rest := by
  induction blocks generalizing back with
  | nil => rfl
  | cons block blocks ih =>
    obtain ⟨here,others⟩ := List.forall_mem_cons.mp each
    exact ⟨block,blocks.flatten,rfl,here _ _,ih others _⟩

-- Copies that match nothing can be left out.
theorem copies_short (k : Nat) (back m rest : List Char) (copied : copies matched k back m rest) :
    ∃ j ≤ k, j ≤ m.length ∧ copies matched j back m rest := by
  induction k generalizing back m with
  | zero => exact ⟨0,Nat.le_refl _,Nat.zero_le _,copied⟩
  | succ k ih =>
    obtain ⟨x,y,rfl,begins,later⟩ := copied
    obtain ⟨j,few,fits,shorter⟩ := ih _ _ later
    cases x with
    | nil => exact ⟨j,Nat.le_succ_of_le few,fits,shorter⟩
    | cons c x =>
      refine ⟨j + 1,Nat.succ_le_succ few,?_,c :: x,y,rfl,begins,shorter⟩
      rw [List.length_append,List.length_cons]
      omega

-- By induction on the expression: the matcher finds what it matches, and nothing else.
theorem finds_ways (r : Regex) : Finds (r.ways word) (r.Matches word) := by
  induction r with
  | empty => exact fun back text m rest => mem_nothing text m rest
  | one accepts =>
    intro back text m rest
    cases text with
    | nil =>
      constructor
      · intro member
        cases member
      · intro given
        obtain ⟨split,c,rfl,_⟩ := given
        cases split
    | cons c text =>
      unfold ways Matches
      constructor
      · intro member
        split at member
        · rename_i accepted
          cases List.mem_singleton.mp member
          exact ⟨rfl,c,rfl,accepted⟩
        · cases member
      · intro given
        obtain ⟨split,d,rfl,accepted⟩ := given
        cases split
        rw [if_pos accepted]
        exact List.mem_singleton.mpr rfl
  | boundary =>
    intro back text m rest
    unfold ways Matches
    by_cases here : edge word back.head? text.head? = true
    · rw [if_pos here]
      refine (mem_nothing text m rest).trans (and_congr_right fun split => ?_)
      refine (and_iff_left_of_imp fun nothing => ?_).symm
      rwa [split,nothing] at here
    · rw [if_neg here]
      refine iff_of_false List.not_mem_nil fun matched => here ?_
      obtain ⟨split,nothing,ends⟩ := matched
      rwa [split,nothing]
  | seq first second begins ends =>
    intro back text m rest
    exact finds_andThen begins ends back text m rest
  | alt first second one other =>
    intro back text m rest
    unfold ways Matches
    rw [List.mem_append,one,other,← and_or_left]
  | repeated lazy least most body ih =>
    intro back text m rest
    have more : Finds (fun back text => upTo lazy (body.ways word) (match most with | some n => n - least | none => text.length) back text)
        fun back m rest => ∃ k, (∀ n ∈ most, k ≤ n - least) ∧ copies (body.Matches word) k back m rest := by
      intro back text m rest
      refine (finds_upTo lazy ih _ back text m rest).trans ?_
      cases most with
      | some n => simp
      | none =>
        simp only [Option.not_mem_none,false_implies,implies_true,true_and]
        constructor
        · intro given
          obtain ⟨split,k,_,copied⟩ := given
          exact ⟨split,k,copied⟩
        · intro given
          obtain ⟨split,k,copied⟩ := given
          obtain ⟨j,_,fits,shorter⟩ := copies_short k back m rest copied
          refine ⟨split,j,?_,shorter⟩
          rw [split,List.length_append]
          omega
    unfold ways Matches
    refine (finds_andThen (finds_times ih least) more back text m rest).trans (and_congr_right fun _ => ?_)
    constructor
    · intro given
      obtain ⟨x,y,whole,begins,k,few,ends⟩ := given
      exact ⟨k,few,(copies_add least k back m rest).mpr ⟨x,y,whole,begins,ends⟩⟩
    · intro given
      obtain ⟨k,few,copied⟩ := given
      obtain ⟨x,y,whole,begins,ends⟩ := (copies_add least k back m rest).mp copied
      exact ⟨x,y,whole,begins,k,few,ends⟩

theorem occurs_nil (r : Regex) (back : List Char) : Occurs word r back [] ↔ ∃ m rest, [] = m ++ rest ∧ r.Matches word back m rest := by
  constructor
  · intro given
    obtain ⟨p,m,rest,split,matched⟩ := given
    obtain ⟨rfl,later⟩ := List.append_eq_nil_iff.mp split.symm
    exact ⟨m,rest,later.symm,matched⟩
  · intro given
    obtain ⟨m,rest,split,matched⟩ := given
    exact ⟨[],m,rest,split,matched⟩

-- A match begins here or later.
theorem occurs_cons (r : Regex) (back : List Char) (c : Char) (text : List Char) : Occurs word r back (c :: text) ↔
    (∃ m rest, c :: text = m ++ rest ∧ r.Matches word back m rest) ∨ Occurs word r (c :: back) text := by
  constructor
  · intro given
    obtain ⟨p,m,rest,split,matched⟩ := given
    cases p with
    | nil => exact .inl ⟨m,rest,split,matched⟩
    | cons d p =>
      obtain ⟨rfl,later⟩ := List.cons.inj split
      rw [List.reverse_cons,List.append_assoc] at matched
      exact .inr ⟨p,m,rest,later,matched⟩
  · intro given
    rcases given with ⟨m,rest,split,matched⟩ | ⟨p,m,rest,split,matched⟩
    · exact ⟨[],m,rest,split,matched⟩
    · refine ⟨c :: p,m,rest,by rw [split,List.cons_append],?_⟩
      rwa [List.reverse_cons,List.append_assoc]

theorem search_occurs (r : Regex) (back text : List Char) : r.search word back text = true ↔ Occurs word r back text := by
  have here : ∀ back text, (!(r.ways word back text).isEmpty) = true ↔ ∃ m rest, text = m ++ rest ∧ r.Matches word back m rest := by
    intro back text
    rw [Bool.not_eq_true',List.isEmpty_eq_false_iff_exists_mem]
    constructor
    · intro given
      obtain ⟨⟨m,rest⟩,member⟩ := given
      exact ⟨m,rest,(finds_ways word r back text m rest).mp member⟩
    · intro given
      obtain ⟨m,rest,found⟩ := given
      exact ⟨(m,rest),(finds_ways word r back text m rest).mpr found⟩
  induction text generalizing back with
  | nil => exact (here back []).trans (occurs_nil word r back).symm
  | cons c text ih =>
    refine Iff.trans ?_ (occurs_cons word r back c text).symm
    exact (Bool.or_eq_true _ _).to_iff.trans (or_congr (here back (c :: text)) (ih (c :: back)))

end Matcher

section Shape

-- Only characters with the property are matched.
def Within (p : Char → Prop) : Regex → Prop
  | .empty | .boundary => True
  | .one accepts => ∀ c, accepts c = true → p c
  | .seq first second | .alt first second => first.Within p ∧ second.Within p
  | .repeated _ _ _ body => body.Within p

-- Every match has a character with the property.
def Needs (p : Char → Prop) : Regex → Prop
  | .empty | .boundary => False
  | .one accepts => ∀ c, accepts c = true → p c
  | .seq first second => first.Needs p ∨ second.Needs p
  | .alt first second => first.Needs p ∧ second.Needs p
  | .repeated _ least _ body => 0 < least ∧ body.Needs p

-- What is around a match does not matter.
def Free : Regex → Prop
  | .empty | .one _ => True
  | .boundary => False
  | .seq first second | .alt first second => first.Free ∧ second.Free
  | .repeated _ _ _ body => body.Free

theorem copies_all {matched : List Char → List Char → List Char → Prop} {p : Char → Prop}
    (each : ∀ back m rest, matched back m rest → ∀ c ∈ m, p c) (n : Nat) (back m rest : List Char)
    (copied : copies matched n back m rest) : ∀ c ∈ m, p c := by
  induction n generalizing back m with
  | zero =>
    rw [show m = [] from copied]
    exact fun _ member => absurd member List.not_mem_nil
  | succ n ih =>
    obtain ⟨x,y,rfl,first,later⟩ := copied
    intro c member
    rcases List.mem_append.mp member with early | late
    · exact each _ _ _ first c early
    · exact ih _ _ later c late

theorem within_all (r : Regex) (within : r.Within p) (back m rest : List Char) (matched : r.Matches word back m rest) :
    ∀ c ∈ m, p c := by
  induction r generalizing back m rest with
  | empty =>
    rw [show m = [] from matched]
    exact fun _ member => absurd member List.not_mem_nil
  | one accepts =>
    obtain ⟨c,rfl,accepted⟩ := matched
    intro d member
    rw [List.mem_singleton.mp member]
    exact within c accepted
  | boundary =>
    rw [matched.1]
    exact fun _ member => absurd member List.not_mem_nil
  | seq first second begins ends =>
    obtain ⟨x,y,rfl,early,late⟩ := matched
    intro c member
    rcases List.mem_append.mp member with inside | inside
    · exact begins within.1 _ _ _ early c inside
    · exact ends within.2 _ _ _ late c inside
  | alt first second one other =>
    rcases matched with here | there
    · exact one within.1 _ _ _ here
    · exact other within.2 _ _ _ there
  | repeated lazy least most body ih =>
    obtain ⟨more,_,copied⟩ := matched
    exact copies_all (ih within) _ _ _ _ copied

theorem needs_some (r : Regex) (needs : r.Needs p) (back m rest : List Char) (matched : r.Matches word back m rest) :
    ∃ c ∈ m, p c := by
  induction r generalizing back m rest with
  | empty => exact needs.elim
  | one accepts =>
    obtain ⟨c,rfl,accepted⟩ := matched
    exact ⟨c,List.mem_singleton.mpr rfl,needs c accepted⟩
  | boundary => exact needs.elim
  | seq first second begins ends =>
    obtain ⟨x,y,rfl,early,late⟩ := matched
    rcases needs with needed | needed
    · obtain ⟨c,inside,has⟩ := begins needed _ _ _ early
      exact ⟨c,List.mem_append_left y inside,has⟩
    · obtain ⟨c,inside,has⟩ := ends needed _ _ _ late
      exact ⟨c,List.mem_append_right x inside,has⟩
  | alt first second one other =>
    rcases matched with here | there
    · exact one needs.1 _ _ _ here
    · exact other needs.2 _ _ _ there
  | repeated lazy least most body ih =>
    obtain ⟨more,_,copied⟩ := matched
    obtain ⟨n,total⟩ := Nat.exists_eq_succ_of_ne_zero (show least + more ≠ 0 by have := needs.1; omega)
    rw [total] at copied
    obtain ⟨x,y,rfl,first,_⟩ := copied
    obtain ⟨c,inside,has⟩ := ih needs.2 _ _ _ first
    exact ⟨c,List.mem_append_left y inside,has⟩

theorem copies_moved {matched : List Char → List Char → List Char → Prop}
    (each : ∀ back m rest other tail, matched back m rest → matched other m tail) (n : Nat) (back m rest other tail : List Char)
    (copied : copies matched n back m rest) : copies matched n other m tail := by
  induction n generalizing back m other with
  | zero => exact copied
  | succ n ih =>
    obtain ⟨x,y,rfl,first,later⟩ := copied
    exact ⟨x,y,rfl,each _ _ _ _ _ first,ih _ _ _ later⟩

theorem free_moved (r : Regex) (free : r.Free) (back m rest other tail : List Char) (matched : r.Matches word back m rest) :
    r.Matches word other m tail := by
  induction r generalizing back m rest other tail with
  | empty => exact matched
  | one accepts => exact matched
  | boundary => exact free.elim
  | seq first second begins ends =>
    obtain ⟨x,y,rfl,early,late⟩ := matched
    exact ⟨x,y,rfl,begins free.1 _ _ _ _ _ early,ends free.2 _ _ _ _ _ late⟩
  | alt first second one two =>
    rcases matched with here | there
    · exact .inl (one free.1 _ _ _ _ _ here)
    · exact .inr (two free.2 _ _ _ _ _ there)
  | repeated lazy least most body ih =>
    obtain ⟨more,few,copied⟩ := matched
    exact ⟨more,few,copies_moved (ih free) _ _ _ _ _ _ copied⟩

end Shape

section Substitution

-- What a substitution has done: each place where nothing matches is kept, and each match cut out.
inductive Replaced (r : Regex) (replacement : List Char) : List Char → List Char → List Char → Prop
  | stop (back : List Char) : Replaced r replacement back [] []
  | keep {back text result : List Char} (c : Char) (unmatched : ∀ m rest, c :: text = m ++ rest → ¬r.Matches word back m rest)
      (later : Replaced r replacement (c :: back) text result) : Replaced r replacement back (c :: text) (c :: result)
  | cut {back rest result : List Char} (m : List Char) (matched : r.Matches word back m rest)
      (later : Replaced r replacement (m.reverse ++ back) rest result) : Replaced r replacement back (m ++ rest) (replacement ++ result)

theorem sub_skip (r : Regex) (replacement m back rest : List Char) :
    r.sub word replacement m.length back (m ++ rest) = r.sub word replacement 0 (m.reverse ++ back) rest := by
  induction m generalizing back with
  | nil => rfl
  | cons c m ih =>
    rw [List.length_cons,List.cons_append,List.reverse_cons,List.append_assoc]
    exact ih (c :: back)

theorem ways_head (r : Regex) (back text : List Char) (found : (r.ways word back text).head? = some (m,rest)) :
    text = m ++ rest ∧ r.Matches word back m rest :=
  (finds_ways word r back text m rest).mp (List.mem_of_head? found)

theorem ways_none (r : Regex) (back text : List Char) (none_found : r.ways word back text = []) (m rest : List Char)
    (split : text = m ++ rest) : ¬r.Matches word back m rest := by
  intro matched
  have member := (finds_ways word r back text m rest).mpr ⟨split,matched⟩
  rw [none_found] at member
  cases member

-- By induction on the length of the text left.
theorem sub_replaced (r : Regex) (replacement : List Char) (visible : ∀ back rest, ¬r.Matches word back [] rest)
    (back text : List Char) : Replaced word r replacement back text (r.sub word replacement 0 back text) := by
  induction size : text.length using Nat.strongRecOn generalizing back text with
  | _ n ih =>
    cases text with
    | nil =>
      have nothing : r.ways word back [] = [] := by
        rw [List.eq_nil_iff_forall_not_mem]
        rintro ⟨m,rest⟩ member
        obtain ⟨split,matched⟩ := (finds_ways word r back [] m rest).mp member
        rw [(List.append_eq_nil_iff.mp split.symm).1] at matched
        exact visible _ _ matched
      unfold sub
      rw [nothing]
      exact .stop back
    | cons c text =>
      rw [List.length_cons] at size
      unfold sub
      split
      · rename_i none_found
        exact .keep c (ways_none word r back _ (List.head?_eq_none_iff.mp none_found)) (ih text.length (by omega) _ _ rfl)
      · rename_i rest found
        exact absurd (ways_head word r back _ found).2 (visible _ _)
      · rename_i d more rest found
        obtain ⟨split,matched⟩ := ways_head word r back _ found
        obtain ⟨rfl,left⟩ := List.cons.inj split
        have same : text = more ++ rest := left
        subst same
        rw [sub_skip]
        have shorter : rest.length < n := by
          rw [List.length_append] at size
          omega
        have later := ih rest.length shorter (more.reverse ++ c :: back) rest rfl
        refine .cut (c :: more) matched ?_
        rw [List.reverse_cons,List.append_assoc]
        exact later

theorem replaced_absent {r : Regex} (replaced : Replaced word r replacement back text result) (absent : ¬Occurs word r back text) :
    result = text := by
  induction replaced with
  | stop => rfl
  | keep c unmatched later ih =>
    rw [ih]
    intro given
    obtain ⟨p,m,rest,split,matched⟩ := given
    refine absent ⟨c :: p,m,rest,by rw [split,List.cons_append],?_⟩
    rwa [List.reverse_cons,List.append_assoc]
  | cut m matched later ih => exact absurd ⟨[],m,_,rfl,matched⟩ absent

theorem replaced_chars {r : Regex} (replaced : Replaced word r replacement back text result) :
    ∀ c ∈ result, c ∈ text ∨ c ∈ replacement := by
  induction replaced with
  | stop => exact fun c member => .inl member
  | keep d unmatched later ih =>
    intro c member
    rcases List.mem_cons.mp member with rfl | inside
    · exact .inl List.mem_cons_self
    · exact (ih c inside).imp_left (List.mem_cons_of_mem d)
  | cut m matched later ih =>
    intro c member
    rcases List.mem_append.mp member with new | inside
    · exact .inr new
    · exact (ih c inside).imp_left (List.mem_append_right m)

-- Where single characters are taken out the others are left.
theorem sub_one (accepts : Char → Bool) (back text : List Char) :
    (Regex.one accepts).sub word [] 0 back text = text.filter fun c => !accepts c := by
  induction text generalizing back with
  | nil => rfl
  | cons c text ih =>
    by_cases accepted : accepts c = true
    · have found : (Regex.one accepts).ways word back (c :: text) = [([c],text)] := if_pos accepted
      rw [sub,found,List.filter_cons_of_neg (by simpa using accepted)]
      exact ih (c :: back)
    · have nothing : (Regex.one accepts).ways word back (c :: text) = [] := if_neg accepted
      rw [sub,nothing,List.filter_cons_of_pos (by simpa using accepted)]
      exact congrArg (c :: ·) (ih (c :: back))

end Substitution

-- An expression whose matches begin and end where a word does.
def bounded (core : Regex) : Regex := .seq .boundary (.seq core .boundary)

theorem bounded_matches (core : Regex) (free : core.Free) (back m rest : List Char) : (bounded core).Matches word back m rest ↔
    edge word back.head? (m ++ rest).head? = true ∧ core.Matches word [] m [] ∧
      edge word (m.reverse ++ back).head? rest.head? = true := by
  constructor
  · intro given
    obtain ⟨x,y,rfl,⟨rfl,begins⟩,z,w,rfl,matched,rfl,ends⟩ := given
    simp only [List.append_nil] at begins ends ⊢
    exact ⟨begins,free_moved word core free _ _ _ _ _ matched,ends⟩
  · intro given
    obtain ⟨begins,matched,ends⟩ := given
    exact ⟨[],m,rfl,⟨rfl,begins⟩,m,[],(List.append_nil m).symm,free_moved word core free _ _ _ _ _ matched,rfl,ends⟩

-- A core that never matches the mark, and never nothing.
structure Sealed (mark : Char) (needed : Char → Prop) (core : Regex) : Prop where
  free : core.Free
  within : core.Within (· ≠ mark)
  needs : core.Needs needed

section Sealed
variable {word} {mark : Char} {needed : Char → Prop} {core : Regex}

theorem Sealed.has (sealed : Sealed mark needed core) (matched : core.Matches word back m rest) : ∃ c ∈ m, needed c :=
  needs_some word core sealed.needs back m rest matched

theorem Sealed.visible (sealed : Sealed mark needed core) (back rest : List Char) : ¬(bounded core).Matches word back [] rest := by
  intro matched
  obtain ⟨c,member,_⟩ := sealed.has ((bounded_matches word core sealed.free back [] rest).mp matched).2.1
  cases member

theorem Sealed.apart (sealed : Sealed mark needed core) (matched : core.Matches word back m rest) : ∀ c ∈ m, c ≠ mark :=
  within_all word core sealed.within back m rest matched

-- A match keeps its place in other surroundings with word ends in the same places.
theorem Sealed.moved (sealed : Sealed mark needed core) (matched : (bounded core).Matches word back m rest)
    (begins : edge word back.head? m.head? = true → edge word other.head? m.head? = true)
    (ends : ∀ last, edge word (some last) rest.head? = true → (m.reverse ++ other).head? = some last →
      edge word (some last) tail.head? = true) : (bounded core).Matches word other m tail := by
  obtain ⟨first,middle,last⟩ := (bounded_matches word core sealed.free back m rest).mp matched
  obtain ⟨c,member,_⟩ := sealed.has middle
  obtain ⟨front,d,rfl⟩ : ∃ front d, m = front ++ [d] := by
    have visible : m ≠ [] := List.ne_nil_of_mem member
    exact ⟨m.dropLast,m.getLast visible,(List.dropLast_append_getLast visible).symm⟩
  have heads : ∀ after : List Char, (front ++ [d] ++ after).head? = (front ++ [d]).head? := by
    intro after
    cases front <;> rfl
  have tails : ∀ before : List Char, ((front ++ [d]).reverse ++ before).head? = Option.some d := by
    intro before
    rw [List.reverse_append]
    rfl
  refine (bounded_matches word core sealed.free other _ tail).mpr ⟨?_,middle,?_⟩
  · rw [heads] at first ⊢
    exact begins first
  · rw [tails] at last ⊢
    exact ends d last (tails other)

end Sealed

section Mark
variable {word} {mark : Char} {needed : Char → Prop} {core cut : Regex} {inside : List Char}

-- Up to the first mark the result has the text's characters, and where a mark follows
-- them a word begins or ends in the text.
theorem replaced_front (free : cut.Free) (replaced : Replaced word (bounded cut) (mark :: (inside ++ [mark])) back text result)
    (split : result = m ++ s) (plain : ∀ c ∈ m, c ≠ mark) :
    ∃ rest, text = m ++ rest ∧ (rest.head? = s.head? ∨ edge word (m.reverse ++ back).head? rest.head? = true) := by
  induction replaced generalizing m s with
  | stop back =>
    obtain ⟨rfl,rfl⟩ := List.append_eq_nil_iff.mp split.symm
    exact ⟨[],rfl,.inl rfl⟩
  | @keep back text result c unmatched later ih =>
    cases m with
    | nil =>
      obtain rfl : c :: result = s := split
      exact ⟨c :: text,rfl,.inl rfl⟩
    | cons d m =>
      obtain ⟨rfl,whole⟩ := List.cons.inj split
      obtain ⟨rest,front,ends⟩ := ih whole fun e member => plain e (List.mem_cons_of_mem _ member)
      refine ⟨rest,by rw [front,List.cons_append],?_⟩
      rwa [List.reverse_cons,List.append_assoc]
  | @cut back rest result found matched later ih =>
    cases m with
    | nil => exact ⟨found ++ rest,rfl,.inr ((bounded_matches word _ free back found rest).mp matched).1⟩
    | cons d m =>
      obtain ⟨same,_⟩ := List.cons.inj split
      exact absurd same.symm (plain d List.mem_cons_self)

-- A part without the mark lies before a mark or after it.
theorem parted {α : Type} {a b p m rest : List α} {d : α} (split : a ++ d :: b = p ++ (m ++ rest)) (absent : d ∉ m) :
    (∃ q, p = a ++ d :: q ∧ b = q ++ (m ++ rest)) ∨ ∃ q, a = p ++ (m ++ q) ∧ rest = q ++ d :: b := by
  rcases List.append_eq_append_iff.mp split with ⟨q,rfl,later⟩ | ⟨q,rfl,later⟩
  · cases q with
    | nil =>
      cases m with
      | nil => exact .inr ⟨[],by simp,later.symm⟩
      | cons e m => exact absurd ((List.cons.inj later).1 ▸ List.mem_cons_self) absent
    | cons e q =>
      obtain ⟨rfl,same⟩ := List.cons.inj later
      exact .inl ⟨q,rfl,same⟩
  · rcases List.append_eq_append_iff.mp later with ⟨z,rfl,same⟩ | ⟨z,rfl,same⟩
    · exact .inr ⟨z,rfl,same⟩
    · cases z with
      | nil => exact .inr ⟨[],by simp,same.symm⟩
      | cons e z => exact absurd ((List.cons.inj same).1 ▸ List.mem_append_right q List.mem_cons_self) absent

-- Text without a mark that has what is needed stands before a mark or after it, and not
-- in what the marks enclose.
theorem outside (lacks : ∀ c ∈ inside, ¬needed c) (split : mark :: (inside ++ [mark]) ++ result = p ++ (m ++ rest))
    (plain : ∀ c ∈ m, c ≠ mark) (has : ∃ c ∈ m, needed c) :
    ∃ q, p = mark :: (inside ++ [mark]) ++ q ∧ result = q ++ (m ++ rest) := by
  obtain ⟨c,member,needs⟩ := has
  have absent : mark ∉ m := fun inside => plain mark inside rfl
  have first : [] ++ mark :: (inside ++ mark :: result) = p ++ (m ++ rest) := by
    rw [← split]
    simp
  rcases parted first absent with ⟨q,rfl,later⟩ | ⟨q,nothing,_⟩
  · rcases parted later absent with ⟨z,rfl,same⟩ | ⟨z,whole,_⟩
    · exact ⟨z,by simp,same⟩
    · refine absurd needs (lacks c ?_)
      rw [whole]
      exact List.mem_append_right q (List.mem_append_left z member)
  · have empty : m = [] := (List.append_eq_nil_iff.mp (List.append_eq_nil_iff.mp nothing.symm).2).1
    rw [empty] at member
    cases member

-- By induction on what the substitution did: a match in the result is a match in the text,
-- at a place where nothing was cut. What comes before the result may differ from what came
-- before the text where a word begins or ends in the text.
theorem replaced_occurs (free : cut.Free) (sealed : Sealed mark needed core) (lacks : ∀ c ∈ inside, ¬needed c)
    (replaced : Replaced word (bounded cut) (mark :: (inside ++ [mark])) back text result) (new : List Char)
    (follows : new.head? = back.head? ∨ edge word back.head? text.head? = true) (occurs : Occurs word (bounded core) new result) :
    ∃ p m rest, text = p ++ (m ++ rest) ∧ (bounded core).Matches word (p.reverse ++ back) m rest ∧
      ∀ x y, m ++ rest = x ++ y → ¬(bounded cut).Matches word (p.reverse ++ back) x y := by
  have parts : ∀ {back m rest}, (bounded core).Matches word back m rest → (∀ c ∈ m, c ≠ mark) ∧ ∃ c ∈ m, needed c := by
    intro back m rest matched
    obtain ⟨_,middle,_⟩ := (bounded_matches word core sealed.free back m rest).mp matched
    exact ⟨sealed.apart middle,sealed.has middle⟩
  induction replaced generalizing new with
  | stop back =>
    obtain ⟨p,m,rest,split,matched⟩ := occurs
    obtain ⟨_,rest_nil⟩ := List.append_eq_nil_iff.mp split.symm
    rw [(List.append_eq_nil_iff.mp rest_nil).1] at matched
    exact absurd matched (sealed.visible _ _)
  | @keep back text result c unmatched later ih =>
    obtain ⟨p,m,rest,split,matched⟩ := occurs
    cases p with
    | nil =>
      obtain ⟨plain,_⟩ := parts matched
      have whole : Replaced word (bounded cut) (mark :: (inside ++ [mark])) back (c :: text) (c :: result) := .keep c unmatched later
      have joined : c :: result = m ++ rest := split
      obtain ⟨tail,front,ends⟩ := replaced_front free whole joined plain
      cases m with
      | nil => exact absurd matched (sealed.visible _ _)
      | cons e m =>
        obtain ⟨rfl,_⟩ := List.cons.inj front
        refine ⟨[],c :: m,tail,front,?_,fun x y same => unmatched x y (front.trans same)⟩
        refine sealed.moved matched (fun begins => ?_) fun last atEnd here => ?_
        · rcases follows with same | breaks
          · exact same ▸ begins
          · exact breaks
        · rcases ends with same | breaks
          · rwa [same]
          · rwa [show ((c :: m).reverse ++ back).head? = some last from here] at breaks
    | cons d p =>
      obtain ⟨rfl,later_split⟩ := List.cons.inj split
      have split : result = p ++ (m ++ rest) := later_split
      rw [List.reverse_cons,List.append_assoc] at matched
      obtain ⟨q,n,tail,front,still,nothing⟩ := ih (c :: new) (.inl rfl) ⟨p,m,rest,split,matched⟩
      refine ⟨c :: q,n,tail,by rw [front,List.cons_append],?_,?_⟩
      · rwa [List.reverse_cons,List.append_assoc]
      · rwa [List.reverse_cons,List.append_assoc]
  | @cut back rest result found matched later ih =>
    obtain ⟨p,m,tail,split,occurred⟩ := occurs
    obtain ⟨plain,has⟩ := parts occurred
    obtain ⟨q,rfl,after⟩ := outside lacks split plain has
    obtain ⟨_,_,ends⟩ := (bounded_matches word cut free back found rest).mp matched
    rw [List.reverse_append,List.append_assoc] at occurred
    obtain ⟨r,n,left,front,still,nothing⟩ := ih _ (.inr ends) ⟨q,m,tail,after,occurred⟩
    refine ⟨found ++ r,n,left,by rw [front,List.append_assoc],?_,?_⟩
    · rwa [List.reverse_append,List.append_assoc]
    · rwa [List.reverse_append,List.append_assoc]

-- A substitution of sealed matches leaves none of its own.
theorem sub_none (sealed : Sealed mark needed core) (lacks : ∀ c ∈ inside, ¬needed c) (back text : List Char) :
    ¬Occurs word (bounded core) back ((bounded core).sub word (mark :: (inside ++ [mark])) 0 back text) := by
  intro occurs
  have replaced := sub_replaced word (bounded core) (mark :: (inside ++ [mark])) sealed.visible back text
  obtain ⟨p,m,rest,_,matched,nothing⟩ := replaced_occurs sealed.free sealed lacks replaced back (.inl rfl) occurs
  exact nothing m rest rfl matched

-- And it makes no match of another kind.
theorem sub_makes_none {other : Char → Prop} (cuts : Sealed mark other cut) (sealed : Sealed mark needed core)
    (lacks : ∀ c ∈ inside, ¬needed c) (back text : List Char) (absent : ¬Occurs word (bounded core) back text) :
    ¬Occurs word (bounded core) back ((bounded cut).sub word (mark :: (inside ++ [mark])) 0 back text) := by
  intro occurs
  have replaced := sub_replaced word (bounded cut) (mark :: (inside ++ [mark])) cuts.visible back text
  obtain ⟨p,m,rest,split,matched,_⟩ := replaced_occurs cuts.free sealed lacks replaced back (.inl rfl) occurs
  exact absent ⟨p,m,rest,split,matched⟩

theorem sub_same (sealed : Sealed mark needed core) (replacement back text : List Char)
    (absent : ¬Occurs word (bounded core) back text) : (bounded core).sub word replacement 0 back text = text :=
  replaced_absent word (sub_replaced word (bounded core) replacement sealed.visible back text) absent

end Mark

section Separated
variable {α : Type} (char : α → Char) (counts : α → Prop) {mark : Char} {needed : Char → Prop} {core : Regex}

-- A match among labelled characters that has one that counts.
def Touches (r : Regex) (back : List Char) (text : List α) : Prop :=
  ∃ p m rest, text = p ++ (m ++ rest) ∧
    r.Matches word ((p.map char).reverse ++ back) (m.map char) (rest.map char) ∧ ∃ c ∈ m, counts c

theorem edge_before (apart : word d = false) (near far : List Char) (after : Option Char) :
    edge word (near ++ d :: far).head? after = edge word near.head? after := by
  cases near with
  | nil => simp [edge,apart]
  | cons c near => rfl

theorem edge_after (apart : word d = false) (near far : List Char) (before : Option Char) :
    edge word before (near ++ d :: far).head? = edge word before near.head? := by
  cases near with
  | nil => simp [edge,apart]
  | cons c near => rfl

-- A character that is neither of a word nor of a match keeps what is before it from what
-- is after it.
theorem touches_separated {d : α} (sealed : Sealed (char d) needed core) (apart : word (char d) = false) (back : List Char)
    (a b : List α) : Touches word char counts (bounded core) back (a ++ d :: b) ↔
      Touches word char counts (bounded core) back a ∨ Touches word char counts (bounded core) [] b := by
  constructor
  · intro given
    obtain ⟨p,m,rest,split,matched,counted⟩ := given
    have absent : d ∉ m := by
      intro member
      obtain ⟨_,middle,_⟩ := (bounded_matches word core sealed.free _ _ _).mp matched
      exact sealed.apart middle _ (List.mem_map_of_mem member) rfl
    rcases parted split absent with ⟨q,rfl,same⟩ | ⟨q,same,rfl⟩
    · refine .inr ⟨q,m,rest,same,?_,counted⟩
      rw [List.map_append,List.map_cons,List.reverse_append,List.reverse_cons,List.append_assoc,List.append_assoc] at matched
      refine sealed.moved matched (fun begins => ?_) fun _ ends _ => ends
      rwa [List.append_nil,← edge_before word apart]
    · refine .inl ⟨p,m,q,same,?_,counted⟩
      rw [List.map_append,List.map_cons] at matched
      refine sealed.moved matched id fun last ends _ => ?_
      rwa [← edge_after word apart]
  · intro given
    rcases given with ⟨p,m,q,rfl,matched,counted⟩ | ⟨q,m,rest,rfl,matched,counted⟩
    · refine ⟨p,m,q ++ d :: b,by simp,?_,counted⟩
      rw [List.map_append,List.map_cons]
      refine sealed.moved matched id fun last ends _ => ?_
      rwa [edge_after word apart]
    · refine ⟨a ++ d :: q,m,rest,by simp,?_,counted⟩
      rw [List.map_append,List.map_cons,List.reverse_append,List.reverse_cons,List.append_assoc,List.append_assoc]
      refine sealed.moved matched (fun begins => ?_) fun _ ends _ => ends
      rw [List.append_nil] at begins
      rwa [← edge_before word apart] at begins

theorem touches_nil (r : Regex) (back : List Char) : ¬Touches word char counts r back [] := by
  intro given
  obtain ⟨p,m,rest,split,_,c,member,_⟩ := given
  obtain ⟨_,nothing⟩ := List.append_eq_nil_iff.mp split.symm
  rw [(List.append_eq_nil_iff.mp nothing).1] at member
  cases member

-- Where every character counts, and where none does.
theorem touches_all (sealed : Sealed mark needed core) (back : List Char) (text : List α) (all : ∀ c ∈ text, counts c) :
    Touches word char counts (bounded core) back text ↔ Occurs word (bounded core) back (text.map char) := by
  constructor
  · intro given
    obtain ⟨p,m,rest,rfl,matched,_⟩ := given
    exact ⟨p.map char,m.map char,rest.map char,by simp,matched⟩
  · intro given
    obtain ⟨p,m,rest,split,matched⟩ := given
    obtain ⟨first,others,rfl,rfl,later⟩ := List.map_eq_append_iff.mp split
    obtain ⟨middle,last,rfl,rfl,rfl⟩ := List.map_eq_append_iff.mp later
    obtain ⟨_,inside,_⟩ := (bounded_matches word core sealed.free _ _ _).mp matched
    obtain ⟨_,member,_⟩ := sealed.has inside
    obtain ⟨c,member,_⟩ := List.mem_map.mp member
    exact ⟨first,middle,last,rfl,matched,c,member,all c (by simp [member])⟩

theorem touches_joined {d : α} (sealed : Sealed (char d) needed core) (apart : word (char d) = false) (parts : List (List α)) :
    Touches word char counts (bounded core) [] ([d].intercalate parts) ↔
      ∃ part ∈ parts, Touches word char counts (bounded core) [] part := by
  induction parts with
  | nil =>
    constructor
    · intro touches
      exact absurd touches (touches_nil word char counts _ _)
    · intro given
      obtain ⟨part,member,_⟩ := given
      cases member
  | cons part rest ih =>
    cases rest with
    | nil => simp [List.intercalate]
    | cons next rest =>
      have joined : [d].intercalate (part :: next :: rest) = part ++ d :: [d].intercalate (next :: rest) := by
        simp [List.intercalate]
      rw [joined,touches_separated word char counts sealed apart,ih]
      simp only [List.exists_mem_cons_iff]

theorem touches_none (r : Regex) (back : List Char) (text : List α) (none : ∀ c ∈ text, ¬counts c) :
    ¬Touches word char counts r back text := by
  intro given
  obtain ⟨p,m,rest,rfl,_,c,member,counted⟩ := given
  exact none c (by simp [member]) counted

theorem occurs_touches (sealed : Sealed mark needed core) (back text : List Char) :
    Occurs word (bounded core) back text ↔ Touches word id (fun _ => True) (bounded core) back text := by
  rw [touches_all word id (fun _ => True) sealed back text fun _ _ => trivial,List.map_id]

variable {d : Char} (sealed : Sealed d needed core) (apart : word d = false)
include sealed apart

theorem occurs_separated (back a b : List Char) : Occurs word (bounded core) back (a ++ d :: b) ↔
    Occurs word (bounded core) back a ∨ Occurs word (bounded core) [] b := by
  simp only [occurs_touches word sealed]
  exact touches_separated word id (fun _ => True) sealed apart back a b

theorem occurs_joined (parts : List (List Char)) : Occurs word (bounded core) [] ([d].intercalate parts) ↔
    ∃ part ∈ parts, Occurs word (bounded core) [] part := by
  simp only [occurs_touches word sealed]
  exact touches_joined word id (fun _ => True) sealed apart parts

end Separated

-- A match has what it needs.
theorem occurs_needed {needed : Char → Prop} {core : Regex} (sealed : Sealed mark needed core)
    (lacks : ∀ c ∈ text, ¬needed c) (back : List Char) : ¬Occurs word (bounded core) back text := by
  intro given
  obtain ⟨p,m,rest,rfl,matched⟩ := given
  obtain ⟨_,middle,_⟩ := (bounded_matches word core sealed.free _ _ _).mp matched
  obtain ⟨c,member,needs⟩ := sealed.has middle
  exact lacks c (by simp [member]) needs

end Regex
