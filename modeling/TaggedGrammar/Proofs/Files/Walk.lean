import TaggedGrammar.Files.Walk
import TaggedGrammar.Proofs.Files.Disk

/-!
# Where walks lead

`Leads` is the relation behind a walk: names lead from one directory to another one over entries that are
there. A walk over names with something behind them is a walk over the names, which leads to a directory,
and a walk from there. Since `Leads` only looks at directories and links, a change that keeps these keeps all
ways.
-/

namespace TaggedGrammar.Files

/-- The name of an entry: neither a point, nor two points, nor empty. -/
structure IsPlain (name : Text) : Prop where
  notParent : name ≠ ".."
  notSelf : name ≠ "."
  notEmpty : name ≠ []

namespace Disk

variable {d d' : Disk} {e : Ending}

/-- Names lead from the directory `p` to the directory `q`; of `k` links that may be followed `m` are left. -/
inductive Leads (d : Disk) : (k : Nat) → (p : Place) → List Text → (m : Nat) → (q : Place) → Prop where
  | done {k p} :
    Leads d k p [] k p
  | up {k p rest m q} :
    Leads d k p.tail rest m q →
    Leads d k p (".." :: rest) m q
  | stay {k p} {name : Text} {rest m q} :
    name = "." ∨ name = [] →
    Leads d k p rest m q →
    Leads d k p (name :: rest) m q
  | enter {k p name rest m q} :
    IsPlain name → name.fileBytes ≤ nameLimit →
    d.get (name :: p) = some .directory →
    Leads d k (name :: p) rest m q →
    Leads d k p (name :: rest) m q
  | follow {k p name target rest m q} :
    IsPlain name → name.fileBytes ≤ nameLimit →
    d.get (name :: p) = some (.link target) →
    Leads d k (linkStart p target) (linkNames target ++ rest) m q →
    Leads d (k + 1) p (name :: rest) m q

/-- Going on at a link. -/
def jump (d : Disk) (e : Ending) : (k : Nat) → Place → List Text → Except Problem Spot
  | 0 => fun _ _ => .error .tooManyLinks
  | k + 1 => d.walk e k

/-- A walk over no names stays where it is. -/
lemma walk_nil (k : Nat) (p : Place) : d.walk e k p [] = .ok ⟨p, some .directory⟩ := by
  cases k <;> rfl

/-- Two points lead to the directory above. -/
lemma walk_up (k : Nat) (p : Place) (rest : List Text) :
    d.walk e k p (".." :: rest) = d.walk e k p.tail rest := by
  cases k <;> simp only [walk, walkNames, ↓reduceIte]

/-- A point leads nowhere. -/
lemma walk_stay (k : Nat) (p : Place) {name : Text} (rest : List Text) (h : name = "." ∨ name = []) :
    d.walk e k p (name :: rest) = d.walk e k p rest := by
  have hup : name ≠ ".." := by
    rintro rfl
    revert h
    decide
  cases k <;> simp only [walk, walkNames, if_neg hup, if_pos h]

/-- A walk over the name of an entry looks at what is there. -/
lemma walk_plain (k : Nat) (p : Place) {name : Text} (rest : List Text) (h : IsPlain name) :
    d.walk e k p (name :: rest) =
      if e = .make ∧ rest = [[]] then .error .isDirectory
      else if nameLimit < name.fileBytes then .error .nameTooLong
      else match d.get (name :: p) with
        | none => if rest.isEmpty then .ok ⟨name :: p, none⟩ else .error .missing
        | some .directory => d.walk e k (name :: p) rest
        | some (.file content) =>
          if rest.isEmpty then .ok ⟨name :: p, some (.file content)⟩ else .error .notDirectory
        | some (.link target) =>
          if rest.isEmpty ∧ e = .keep then .ok ⟨name :: p, some (.link target)⟩
          else d.jump e k (linkStart p target) (linkNames target ++ rest) := by
  have hself : ¬(name = "." ∨ name = []) := fun h' => h'.elim h.notSelf h.notEmpty
  cases k with
  | zero => exact (if_neg h.notParent).trans (if_neg hself)
  | succ k => exact (if_neg h.notParent).trans (if_neg hself)

/-- A name is two points, or stands for where it is, or is the name of an entry. -/
lemma name_cases (name : Text) : name = ".." ∨ (name = "." ∨ name = []) ∨ IsPlain name := by
  by_cases h₁ : name = ".."
  · exact .inl h₁
  by_cases h₂ : name = "."
  · exact .inr (.inl (.inl h₂))
  by_cases h₃ : name = []
  · exact .inr (.inl (.inr h₃))
  exact .inr (.inr ⟨h₁, h₂, h₃⟩)

/-- Ways can be put together. -/
lemma Leads.append {k p names m q more j r} (h₁ : d.Leads k p names m q) (h₂ : d.Leads m q more j r) :
    d.Leads k p (names ++ more) j r := by
  induction h₁ with
  | done => exact h₂
  | up _ ih => exact .up (ih h₂)
  | stay hn _ ih => exact .stay hn (ih h₂)
  | enter hn hs hd _ ih => exact .enter hn hs hd (ih h₂)
  | follow hn hs hl _ ih =>
    refine .follow hn hs hl ?_
    have way := ih h₂
    rwa [List.append_assoc] at way

/-- A change that keeps directories and links keeps ways. -/
lemma Leads.mono {k p names m q} (h : d.Leads k p names m q) (hk : Keeps d d') :
    d'.Leads k p names m q := by
  induction h with
  | done => exact .done
  | up _ ih => exact .up ih
  | stay hn _ ih => exact .stay hn ih
  | enter hn hs hd _ ih => exact .enter hn hs (hk.directory hd) ih
  | follow hn hs hl _ ih => exact .follow hn hs (hk.link.2 hl) ih

/-- A walk over names that lead to a directory goes on from there. -/
lemma Leads.walk_append {k p names m q tail} (h : d.Leads k p names m q)
    (ht : tail ≠ [] ∨ e = .follow) (hm : e = .make → tail ≠ [[]]) :
    d.walk e k p (names ++ tail) = d.walk e m q tail := by
  have not_slash : ∀ rest : List Text, ¬(e = .make ∧ rest ++ tail = [[]]) := by
    rintro rest ⟨rfl, hrest⟩
    have hne : tail ≠ [] := ht.elim id (by simp)
    cases rest with
    | nil => exact hm rfl hrest
    | cons _ _ => simp_all
  have not_end : ∀ rest : List Text, ¬((rest ++ tail).isEmpty ∧ e = .keep) := by
    rintro rest ⟨hempty, rfl⟩
    simp_all
  induction h with
  | done => rfl
  | up _ ih => rw [List.cons_append, walk_up, ih]
  | stay hn _ ih => rw [List.cons_append, walk_stay _ _ _ hn, ih]
  | @enter k p name rest m q hn hs hd _ ih =>
    rw [List.cons_append, walk_plain _ _ _ hn, if_neg (not_slash rest), if_neg (by omega), hd]
    exact ih
  | @follow k p name target rest m q hn hs hl _ ih =>
    rw [List.cons_append, walk_plain _ _ _ hn, if_neg (not_slash rest), if_neg (by omega), hl]
    dsimp only
    rw [if_neg (not_end rest), ← List.append_assoc]
    exact ih

/-- A walk that succeeds over names with a tail behind them has passed a directory in between, unless there is
no tail and the walk ends at something else. -/
lemma exists_leads {tail : List Text} {spot : Spot} {k : Nat} {names : List Text} {p : Place}
    (h : d.walk e k p (names ++ tail) = .ok spot) :
    (∃ m q, d.Leads k p names m q ∧ d.walk e m q tail = .ok spot) ∨
      (tail = [] ∧ spot.entry ≠ some .directory) := by
  -- at a link the names change and the number of links gets smaller; otherwise the names get fewer
  induction k using Nat.strong_induction_on generalizing names p with
  | _ k ihk =>
    induction names generalizing p with
    | nil => exact .inl ⟨k, p, .done, h⟩
    | cons name rest ih =>
      rw [List.cons_append] at h
      rcases name_cases name with rfl | hstay | hn
      · rw [walk_up] at h
        refine (ih h).imp ?_ id
        rintro ⟨m, q, way, hw⟩
        exact ⟨m, q, .up way, hw⟩
      · rw [walk_stay _ _ _ hstay] at h
        refine (ih h).imp ?_ id
        rintro ⟨m, q, way, hw⟩
        exact ⟨m, q, .stay hstay way, hw⟩
      · rw [walk_plain _ _ _ hn] at h
        split at h
        · cases h
        split at h
        · cases h
        rename_i hshort
        have hs : name.fileBytes ≤ nameLimit := by omega
        split at h
        · split at h
          · rename_i hempty
            cases h
            exact .inr ⟨by simp_all, by simp⟩
          · cases h
        · rename_i hd
          refine (ih h).imp ?_ id
          rintro ⟨m, q, way, hw⟩
          exact ⟨m, q, .enter hn hs hd way, hw⟩
        · split at h
          · rename_i hempty
            cases h
            exact .inr ⟨by simp_all, by simp⟩
          · cases h
        · rename_i target hl
          split at h
          · rename_i hempty
            cases h
            exact .inr ⟨by simp_all, by simp⟩
          · cases k with
            | zero => cases h
            | succ k =>
              rw [← List.append_assoc] at h
              refine (ihk k (by omega) h).imp ?_ id
              rintro ⟨m, q, way, hw⟩
              exact ⟨m, q, .follow hn hs hl way, hw⟩

/-- Names lead to a directory exactly if a walk that follows links ends there. -/
lemma walk_follow_iff {k p names q} :
    d.walk .follow k p names = .ok ⟨q, some .directory⟩ ↔ ∃ m, d.Leads k p names m q := by
  constructor
  · intro h
    rw [← List.append_nil names] at h
    rcases exists_leads h with ⟨m, q', way, hw⟩ | ⟨-, hne⟩
    · rw [walk_nil] at hw
      cases hw
      exact ⟨m, way⟩
    · exact absurd rfl hne
  · rintro ⟨m, way⟩
    rw [← List.append_nil names, way.walk_append (.inr rfl) (by simp), walk_nil]

/-- Names that lead to a directory lead to something for a walk that keeps a last link. -/
lemma Leads.walk_keep {k p names m q} (h : d.Leads k p names m q) :
    ∃ spot, d.walk .keep k p names = .ok spot ∧ spot.entry ≠ none := by
  induction h with
  | done => exact ⟨_, walk_nil _ _, by simp⟩
  | up _ ih => rwa [walk_up]
  | stay hn _ ih => rwa [walk_stay _ _ _ hn]
  | enter hn hs hd _ ih =>
    rw [walk_plain _ _ _ hn, if_neg (by simp), if_neg (by omega), hd]
    exact ih
  | @follow k p name target rest m q hn hs hl _ ih =>
    rw [walk_plain _ _ _ hn, if_neg (by simp), if_neg (by omega), hl]
    dsimp only
    split
    · exact ⟨_, rfl, by simp⟩
    · exact ih

/-- A last name is where a walk ends, unless it is a link that is to be followed. -/
lemma walk_last {m q} {name : Text} (hn : IsPlain name) (hs : name.fileBytes ≤ nameLimit)
    (hl : e = .keep ∨ ∀ target, d.get (name :: q) ≠ some (.link target)) :
    d.walk e m q [name] = .ok ⟨name :: q, d.get (name :: q)⟩ := by
  rw [walk_plain _ _ _ hn, if_neg (by simp), if_neg (by omega)]
  cases hg : d.get (name :: q) with
  | none => simp
  | some x =>
    cases x with
    | directory => exact walk_nil _ _
    | file content => simp
    | link target =>
      have hkeep : e = .keep := hl.resolve_right fun hno => hno target hg
      simp [hkeep]

/-- A walk over one name that is no link ends at its entry. -/
lemma of_walk_last {m q} {name : Text} {spot : Spot} (hn : IsPlain name)
    (hl : ∀ target, d.get (name :: q) ≠ some (.link target)) (h : d.walk e m q [name] = .ok spot) :
    name.fileBytes ≤ nameLimit ∧ spot = ⟨name :: q, d.get (name :: q)⟩ := by
  by_cases hs : name.fileBytes ≤ nameLimit
  · rw [walk_last hn hs (.inr hl)] at h
    cases h
    exact ⟨hs, rfl⟩
  · rw [walk_plain _ _ _ hn, if_neg (by simp), if_pos (by omega)] at h
    cases h

/-- A walk that keeps links and ends at something other than a directory has come to its parent, which is a
directory. -/
lemma exists_leads_of_entry {k p names place x} (h : d.walk .keep k p names = .ok ⟨place, x⟩)
    (hx : x ≠ some .directory) :
    ∃ front name m q, names = front ++ [name] ∧ place = name :: q ∧ IsPlain name ∧
      name.fileBytes ≤ nameLimit ∧ d.Leads k p front m q ∧ d.get (name :: q) = x := by
  rcases List.eq_nil_or_concat names with rfl | ⟨front, name, rfl⟩
  · rw [walk_nil] at h
    cases h
    exact absurd rfl hx
  rw [List.concat_eq_append] at h ⊢
  rcases exists_leads h with ⟨m, q, way, hw⟩ | ⟨hne, -⟩
  · rcases name_cases name with rfl | hstay | hn
    · rw [walk_up, walk_nil] at hw
      cases hw
      exact absurd rfl hx
    · rw [walk_stay _ _ _ hstay, walk_nil] at hw
      cases hw
      exact absurd rfl hx
    · by_cases hs : name.fileBytes ≤ nameLimit
      · rw [walk_last hn hs (.inl rfl)] at hw
        cases hw
        exact ⟨front, name, m, q, rfl, rfl, hn, hs, way, rfl⟩
      · rw [walk_plain _ _ _ hn, if_neg (by simp), if_pos (by omega)] at hw
        cases hw
  · cases hne

/-- A way does not give links back. -/
lemma Leads.le {k p names m q} (h : d.Leads k p names m q) : m ≤ k := by
  induction h with
  | done => exact Nat.le_refl _
  | up _ ih => exact ih
  | stay _ _ ih => exact ih
  | enter _ _ _ _ ih => exact ih
  | follow _ _ _ _ ih => exact Nat.le_succ_of_le ih

/-- A walk that follows links to something other than a directory has found what is there, and it leads to a file
that is put there as long as the ways are kept. -/
lemma of_walk_entry {k p names place x} (h : d.walk e k p names = .ok ⟨place, x⟩) (he : e ≠ .keep)
    (hx : x ≠ some .directory) :
    place ≠ [] ∧ d.get place = x ∧
      ∀ {d' content}, Keeps d d' → d'.get place = some (.file content) →
        d'.walk .follow k p names = .ok ⟨place, some (.file content)⟩ := by
  -- a last link is followed over its own names, and fewer links are left then
  induction k using Nat.strong_induction_on generalizing names p with
  | _ k ih =>
    rcases List.eq_nil_or_concat names with rfl | ⟨front, name, rfl⟩
    · rw [walk_nil] at h
      cases h
      exact absurd rfl hx
    rw [List.concat_eq_append] at h ⊢
    obtain ⟨m, q, way, last⟩ := (exists_leads h).resolve_right fun hne => List.cons_ne_nil _ _ hne.1
    have behind {d' : Disk} (hk : Keeps d d') :
        d'.walk .follow k p (front ++ [name]) = d'.walk .follow m q [name] :=
      (way.mono hk).walk_append (.inl (List.cons_ne_nil _ _)) (by simp)
    rcases name_cases name with rfl | hstay | hn
    · rw [walk_up, walk_nil] at last
      cases last
      exact absurd rfl hx
    · rw [walk_stay _ _ _ hstay, walk_nil] at last
      cases last
      exact absurd rfl hx
    by_cases hlink : ∃ target, d.get (name :: q) = some (.link target)
    · obtain ⟨target, hlink⟩ := hlink
      rw [walk_plain _ _ _ hn, if_neg (by simp), hlink] at last
      split at last
      · cases last
      next hs =>
      simp only [he, and_false, if_false] at last
      cases m with
      | zero => cases last
      | succ m =>
        obtain ⟨hne, hget, found⟩ := ih m way.le last
        refine ⟨hne, hget, fun hk hfile => ?_⟩
        rw [behind hk, walk_plain _ _ _ hn, if_neg (by simp), if_neg hs, hk.link.2 hlink]
        exact found hk hfile
    · obtain ⟨hs, heq⟩ := of_walk_last hn (not_exists.1 hlink) last
      cases heq
      refine ⟨List.cons_ne_nil _ _, rfl, fun hk hfile => ?_⟩
      rw [behind hk, walk_last hn hs (.inr (by simp [hfile])), hfile]

/-- What a walk that follows a last link finds is found in some form by one that keeps the link. -/
lemma exists_walk_keep {k p names q x} (h : d.walk .follow k p names = .ok ⟨q, some x⟩) :
    ∃ spot, d.walk .keep k p names = .ok spot ∧ spot.entry ≠ none := by
  rcases List.eq_nil_or_concat names with rfl | ⟨front, name, rfl⟩
  · exact ⟨_, walk_nil _ _, by simp⟩
  rw [List.concat_eq_append] at h ⊢
  rcases exists_leads h with ⟨m, r, way, last⟩ | ⟨hne, -⟩
  · rw [way.walk_append (.inl (List.cons_ne_nil _ _)) (by simp)]
    rcases name_cases name with rfl | hstay | hn
    · exact ⟨_, (walk_up _ _ _).trans (walk_nil _ _), by simp⟩
    · exact ⟨_, (walk_stay _ _ _ hstay).trans (walk_nil _ _), by simp⟩
    rw [walk_plain _ _ _ hn, if_neg (by simp)] at last ⊢
    split at last
    · cases last
    next hshort =>
    rw [if_neg hshort]
    cases hget : d.get (name :: r) with
    | none =>
      rw [hget] at last
      cases last
    | some entry =>
      cases entry with
      | directory => exact ⟨_, walk_nil _ _, by simp⟩
      | file content => exact ⟨_, rfl, by simp⟩
      | link target => exact ⟨_, rfl, by simp⟩
  · cases hne

/-- No link leads over a name that is too long. -/
def ShortLinks (d : Disk) : Prop :=
  ∀ p target, d.get p = some (.link target) → ∀ name ∈ linkNames target, name.fileBytes ≤ nameLimit

/-- A walk that follows links fails because there is nothing at its end, or because a name is too long. -/
lemma of_walk_error {k p names problem} (h : d.walk .follow k p names = .error problem) :
    problem.meansAbsent = true ∨
      (problem = .nameTooLong ∧ (d.ShortLinks → ∃ name ∈ names, nameLimit < name.fileBytes)) := by
  -- the induction is that of `exists_leads`
  induction k using Nat.strong_induction_on generalizing names p with
  | _ k ihk =>
    induction names generalizing p with
    | nil =>
      rw [walk_nil] at h
      cases h
    | cons name rest ih =>
      have behind {p : Place} (hrest : d.walk .follow k p rest = .error problem) :
          problem.meansAbsent = true ∨
            (problem = .nameTooLong ∧ (d.ShortLinks → ∃ n ∈ name :: rest, nameLimit < n.fileBytes)) := by
        refine (ih hrest).imp_right fun long => ⟨long.1, fun hl => ?_⟩
        obtain ⟨n, hn, hlong⟩ := long.2 hl
        exact ⟨n, List.mem_cons_of_mem _ hn, hlong⟩
      rcases name_cases name with rfl | hstay | hn
      · rw [walk_up] at h
        exact behind h
      · rw [walk_stay _ _ _ hstay] at h
        exact behind h
      · rw [walk_plain _ _ _ hn, if_neg (by simp)] at h
        split at h
        next hlong =>
          cases h
          exact .inr ⟨rfl, fun _ => ⟨name, List.mem_cons_self, hlong⟩⟩
        split at h
        · split at h
          · cases h
          · cases h
            exact .inl rfl
        · exact behind h
        · split at h
          · cases h
          · cases h
            exact .inl rfl
        · rename_i target hlink
          rw [if_neg (by simp)] at h
          cases k with
          | zero =>
            cases h
            exact .inl rfl
          | succ k =>
            refine (ihk k (by omega) h).imp_right fun long => ⟨long.1, fun hl => ?_⟩
            obtain ⟨n, hn, hlong⟩ := long.2 hl
            rcases List.mem_append.1 hn with hn | hn
            · exact absurd hlong (Nat.not_lt.2 (hl _ _ hlink n hn))
            · exact ⟨n, List.mem_cons_of_mem _ hn, hlong⟩

/-- Where no name is too long, a walk fails only because there is nothing at its end. -/
lemma meansAbsent_of_walk {k p names problem} (hl : d.ShortLinks)
    (hs : ∀ name ∈ names, name.fileBytes ≤ nameLimit) (h : d.walk .follow k p names = .error problem) :
    problem.meansAbsent = true := by
  refine (of_walk_error h).resolve_right fun long => ?_
  obtain ⟨name, hname, hlong⟩ := long.2 hl
  exact absurd hlong (Nat.not_lt.2 (hs name hname))

end Disk

end TaggedGrammar.Files
