import OnlineShoppingCenter.Exceptions

/-!
# Sessions over good databases

One session alone, from good databases on. Every line leads to the next prompt,
to the exit or, when a numeral on it overflows, to an exception; so what ends a
session can be read off the lines at its prompts.
-/
namespace OnlineShoppingCenter

open TextCodec ColumnFamilies EffectProgram StorageSystem

variable [Platform]

/-- The exception that a program ends with. -/
def raised {α : Type} : Except Exn α → Option Exn
  | .ok _ => none
  | .error e => some e

section Sequential

variable {shop : Shop} {w : World} {p : Proc}

/-- A program under the contract, run over good databases. -/
theorem Good.runs {α : Type} {m : ClientM α} {Q : α → Set Uuid → Prop} {E : Exn → Set Uuid → Prop}
    (h : Good shop w) (hm : wp (intact shop) m w.placed Q E) :
    ∃ g, Good shop (run sys m w).2 ∧ g ⊆ (run sys m w).2.placed ∧ Ends Q E (run sys m w).1 g := by
  have hrun : run sys m w = run db (fine m) w := (run_interp (S := clientSig) db Call.method m w).symm
  obtain ⟨g, ⟨hgood, hg⟩, hend⟩ := wp_run implements_integrity ⟨h, subset_rfl⟩ (wp_fine hm)
  rw [hrun]
  exact ⟨g, hgood, hg, hend⟩

theorem wp_and_replies {α : Type} {m : ClientM α} {g : Set Uuid} {Q Q' : α → Set Uuid → Prop}
    {E E' : Exn → Set Uuid → Prop} (h : wp (intact shop) m g Q E)
    (h' : wp (replies shop) m g Q' E') :
    wp (intact shop) m g (fun a g' => Q a g' ∧ Q' a g') (fun e g' => E e g' ∧ E' e g') :=
  wp_and (C := intact shop) (D := replies shop) rfl h h'

theorem inv_mono {g g' : Set Uuid} (h : (intactSpec shop).Inv g p) (hg : g ⊆ g') :
    (intactSpec shop).Inv g' p := by
  refine ⟨h.sound, ?_⟩
  have htask := h.task
  cases hloc : p.loc.task with
  | none => trivial
  | some task =>
    rw [hloc] at htask
    exact Intact.mono htask hg

/-- A session at a prompt over good databases. -/
structure Standing (shop : Shop) (w : World) (p : Proc) : Prop where
  good : Good shop w
  inv : (intactSpec shop).Inv w.placed p
  parsed : p.loc.Parsed

theorem Standing.cartKnown (h : Standing shop w p) (hloc : p.loc ≠ .exited) :
    shop.CartKnown p.logged_in.shopping_cart := by
  have htask := h.inv.task
  obtain ⟨u, loc⟩ := p
  cases loc with
  | exited => exact absurd rfl hloc
  | mainshell | cartshell | useAddress | orderAddr | usePayment | orderPay | placeOrder | accshell
  | accountAddr | accountPay | tshell => exact htask.backed.cart

theorem Standing.keeps (h : Standing shop w p) (line : Text) :
    (intactSpec shop).Keeps (p.step line) w.placed :=
  (intactSpec shop).keeps_step h.inv ((intactSpec shop).okLine_of_all (fun _ => trivial) _ _ _)

/-- An overflow ends the program. -/
theorem Standing.step_overflows (h : Standing shop w p) {line : Text} (hover : p.Overflows shop line) :
    (run sys (p.step line) w).1 = .error .out_of_range := by
  have hwp := wp_and_replies (h.keeps line) (OnlineShoppingCenter.step_overflows hover)
  obtain ⟨g, -, -, hend⟩ := h.good.runs hwp
  cases hr : (run sys (p.step line) w).1 with
  | ok p' =>
    rw [hr] at hend
    exact hend.2.elim
  | error e =>
    rw [hr] at hend
    rw [show e = _ from hend.2]

/-- Any other line leads to a prompt, or to the exit if it is the exit command. -/
theorem Standing.step (h : Standing shop w p) {line : Text} (hover : ¬ p.Overflows shop line) :
    ∃ p', (run sys (p.step line) w).1 = .ok p' ∧ Standing shop (run sys (p.step line) w).2 p' ∧
      (p'.loc = .exited ↔ p.loc = .exited ∨ p.Exits line) := by
  by_cases hloc : p.loc = .exited
  · have hstep : p.step line = .ret p := by
      unfold Proc.step
      rw [hloc]
      rfl
    rw [hstep]
    exact ⟨p, rfl, h, by simp [hloc]⟩
  by_cases hexit : p.Exits line
  · rw [step_exits hexit]
    exact ⟨_, rfl, ⟨h.good, ⟨⟨h.inv.sound.user, trivial⟩, trivial⟩, trivial⟩, by simp [hexit]⟩
  · have hcontinues := continues_step (g := w.placed) h.inv.sound h.parsed (h.cartKnown hloc) hloc
      hexit hover
    have hwp := wp_and_replies (h.keeps line) hcontinues
    obtain ⟨g, hgood, hg, hend⟩ := h.good.runs hwp
    cases hr : (run sys (p.step line) w).1 with
    | ok p' =>
      rw [hr] at hend
      obtain ⟨hinv, hparsed, hnot⟩ := hend
      exact ⟨p', rfl, ⟨hgood, inv_mono hinv hg, hparsed⟩, by simp [hnot, hloc, hexit]⟩
    | error e =>
      rw [hr] at hend
      exact hend.2.elim

/-- Playing a line more. -/
theorem play_cons {w' : World} {line : Text} {next : Proc}
    (hstep : run sys (p.step line) w = (.ok next, w')) (lines : List Text) :
    run sys (p.play (line :: lines)) w =
      ((run sys (next.play lines) w').1.map fun r => ((p, line) :: r.1, r.2),
        (run sys (next.play lines) w').2) := by
  rw [Proc.play, run_bind_ok hstep]
  cases hr : run sys (next.play lines) w' with
  | mk r w'' =>
    cases r with
    | ok r => exact run_bind_ok hr
    | error e => exact run_bind_error hr

theorem play_cons_error {w' : World} {line : Text} {e : Exn}
    (hstep : run sys (p.step line) w = (.error e, w')) (lines : List Text) :
    run sys (p.play (line :: lines)) w = (.error e, w') := run_bind_error hstep

/-- The lines that a session gets through without an exception. -/
theorem Standing.play_iff (h : Standing shop w p) (lines : List Text) :
    (∃ r, (run sys (p.play lines) w).1 = .ok r) ↔
      ∀ front line back, lines = front ++ line :: back →
        ∀ r, (run sys (p.play front) w).1 = .ok r → ¬ r.2.Overflows shop line := by
  induction lines generalizing w p with
  | nil => simp [Proc.play]
  | cons line lines ih =>
    constructor
    · rintro ⟨r, hr⟩
      have hover : ¬ p.Overflows shop line := by
        intro hover
        have herr := h.step_overflows hover
        rw [play_cons_error (Prod.ext herr rfl)] at hr
        cases hr
      obtain ⟨next, hnext, hstanding, -⟩ := h.step hover
      have hcons := fun lines => play_cons (Prod.ext hnext rfl) lines
      rw [hcons] at hr
      have hrest : ∃ r, (run sys (next.play lines) (run sys (p.step line) w).2).1 = .ok r := by
        cases hrun : (run sys (next.play lines) (run sys (p.step line) w).2).1 with
        | ok r => exact ⟨r, rfl⟩
        | error e =>
          rw [hrun] at hr
          cases hr
      intro front typed back heq r' hr'
      cases front with
      | nil =>
        obtain ⟨rfl, -⟩ := List.cons.inj heq
        cases hr'
        exact hover
      | cons first front =>
        obtain ⟨rfl, hlines⟩ := List.cons.inj heq
        rw [hcons] at hr'
        cases hrun : (run sys (next.play front) (run sys (p.step line) w).2).1 with
        | ok r =>
          rw [hrun] at hr'
          cases hr'
          exact (ih hstanding).mp hrest front typed back hlines r hrun
        | error e =>
          rw [hrun] at hr'
          cases hr'
    · intro hlines
      have hover := hlines [] line lines rfl ([], p) rfl
      obtain ⟨next, hnext, hstanding, -⟩ := h.step hover
      have hcons := fun lines => play_cons (Prod.ext hnext rfl) lines
      have hrest := (ih hstanding).mpr ?_
      · obtain ⟨r, hr⟩ := hrest
        rw [hcons, hr]
        exact ⟨_, rfl⟩
      · intro front typed back heq r hr
        apply hlines (line :: front) typed back (by rw [heq]; rfl) ((p, line) :: r.1, r.2)
        rw [hcons, hr]
        rfl

/-- A session that is over has read the exit command. -/
theorem Standing.play_exited (h : Standing shop w p) (lines : List Text) {r : Trail × Proc}
    (hr : (run sys (p.play lines) w).1 = .ok r) :
    Standing shop (run sys (p.play lines) w).2 r.2 ∧
      (r.2.loc = .exited ↔ p.loc = .exited ∨ ∃ e ∈ r.1, e.1.Exits e.2) := by
  induction lines generalizing w p r with
  | nil =>
    cases hr
    exact ⟨h, by simp⟩
  | cons line lines ih =>
    have hover : ¬ p.Overflows shop line :=
      (h.play_iff (line :: lines)).mp ⟨r, hr⟩ [] line lines rfl ([], p) rfl
    obtain ⟨next, hnext, hstanding, hexited⟩ := h.step hover
    rw [play_cons (Prod.ext hnext rfl)] at hr ⊢
    cases hrun : (run sys (next.play lines) (run sys (p.step line) w).2).1 with
    | error e =>
      rw [hrun] at hr
      cases hr
    | ok r' =>
      rw [hrun] at hr
      cases hr
      obtain ⟨hlast, hiff⟩ := ih hstanding hrun
      refine ⟨hlast, ?_⟩
      rw [hiff, hexited]
      simp [or_assoc]

end Sequential

section Login

variable {shop : Shop} {w : World} {username : Text}

/-- After a login the session stands at its first prompt. -/
theorem Good.login (h : Good shop w) {u : User}
    (hu : (run sys (local_storage.getUser username) w).1 = .ok u) :
    ∃ p, (run sys (login username) w).1 = .ok p ∧ p.loc ≠ .exited ∧
      Standing shop (run sys (login username) w).2 p := by
  have hgetUser : wp (intact shop) (local_storage.getUser username) w.placed
      (fun u g => u.Ready shop g) fun _ _ => True :=
    wp_request trivial (fun _ _ _ h => h.2) fun _ _ _ _ => trivial
  obtain ⟨g, hgood, hg, hready⟩ := h.runs hgetUser
  rw [hu] at hready
  have hlogin : run sys (OnlineShoppingCenter.login username) w =
      run sys (mainbby u) (run sys (local_storage.getUser username) w).2 := by
    have hattempt : run sys (Prog.attempt (local_storage.getUser username)) w =
        (.ok (.ok u), (run sys (local_storage.getUser username) w).2) := by
      rw [Prog.attempt, run_andThen, hu]
      rfl
    exact run_bind_ok hattempt
  have hidle : Intact shop (run sys (local_storage.getUser username) w).2.placed u .idle :=
    Intact.mono ⟨hready.name, hready.backed, trivial⟩ hg
  have hwp := wp_and_replies ((intactSpec shop).keeps_mainbby hidle hready.sound) continues_mainbby
  obtain ⟨g', hgood', hg', hend⟩ := hgood.runs hwp
  rw [hlogin]
  cases hr : (run sys (mainbby u) (run sys (local_storage.getUser username) w).2).1 with
  | ok p =>
    rw [hr] at hend
    exact ⟨p, rfl, hend.2.2, hgood', inv_mono hend.1 hg', hend.2.1⟩
  | error e =>
    rw [hr] at hend
    exact hend.2.elim

theorem run_session {p : Proc} (hlogin : (run sys (login username) w).1 = .ok p)
    (lines : List Text) :
    run sys (session username lines) w = run sys (p.play lines) (run sys (login username) w).2 :=
  run_bind_ok (Prod.ext hlogin rfl)

theorem Standing.play_error {p : Proc} (h : Standing shop w p) {lines : List Text} {e : Exn}
    (he : (run sys (p.play lines) w).1 = .error e) : e = .out_of_range := by
  induction lines generalizing w p with
  | nil => cases he
  | cons line lines ih =>
    by_cases hover : p.Overflows shop line
    · have hstep := h.step_overflows hover
      rw [play_cons_error (Prod.ext hstep rfl)] at he
      cases he
      rfl
    · obtain ⟨next, hnext, hstanding, -⟩ := h.step hover
      rw [play_cons (Prod.ext hnext rfl)] at he
      cases hrun : (run sys (next.play lines) (run sys (p.step line) w).2).1 with
      | ok r =>
        rw [hrun] at he
        cases he
      | error x =>
        rw [hrun] at he
        cases he
        exact ih hstanding hrun

/-- No session makes an undefined access in the records it loads. -/
theorem Good.session_defined (h : Good shop w) (username : Text) (lines : List Text) :
    (run sys (session username lines) w).1 ≠ .error .undefined := by
  have hgetUser : wp (intact shop) (local_storage.getUser username) w.placed (fun _ _ => True)
      fun e _ => LoginFails shop username e :=
    wp_request trivial (fun _ _ _ _ => trivial) fun _ _ _ h => h
  obtain ⟨g, -, -, hend⟩ := h.runs hgetUser
  cases hu : (run sys (local_storage.getUser username) w).1 with
  | ok u =>
    obtain ⟨p, hp, -, hstanding⟩ := h.login hu
    rw [run_session hp]
    intro he
    cases hstanding.play_error he
  | error e =>
    rw [hu] at hend
    have hattempt : run sys (Prog.attempt (local_storage.getUser username)) w =
        (.ok (.error e), (run sys (local_storage.getUser username) w).2) := by
      rw [Prog.attempt, run_andThen, hu]
      rfl
    rcases hend with ⟨-, rfl⟩ | ⟨-, rfl | rfl⟩
    · have hlogin : run sys (OnlineShoppingCenter.login username) w =
          (.ok {}, (run sys (local_storage.getUser username) w).2) := run_bind_ok hattempt
      rw [run_session (congrArg Prod.fst hlogin), play_of_exited rfl]
      intro he
      cases he
    · have hlogin : run sys (OnlineShoppingCenter.login username) w =
          (.error .invalid_argument, (run sys (local_storage.getUser username) w).2) :=
        run_bind_ok hattempt
      rw [session, run_bind_error hlogin]
      intro he
      cases he
    · have hlogin : run sys (OnlineShoppingCenter.login username) w =
          (.error .out_of_range, (run sys (local_storage.getUser username) w).2) :=
        run_bind_ok hattempt
      rw [session, run_bind_error hlogin]
      intro he
      cases he

/-- An empty line is neither an exit command nor a numeral. -/
theorem not_overflows_nil (shop : Shop) (p : Proc) : ¬ p.Overflows shop [] := by
  have hempty : ¬ TooLarge [] := by decide
  unfold Proc.Overflows
  split
  · rename_i hsplit
    cases hsplit
  · rename_i hsplit
    cases hsplit
  · exact hempty
  · exact hempty
  · exact hempty
  · exact hempty
  · rename_i hsplit
    cases hsplit
  · exact id

theorem not_exits_nil (p : Proc) : ¬ p.Exits [] := by
  rintro ⟨-, hhead⟩
  cases hhead

/-- At the end of input every `getline` gives an empty line. -/
theorem Standing.play_blanks {p : Proc} (h : Standing shop w p) (k : Nat) :
    ∃ r, (run sys (p.play (List.replicate k [])) w).1 = .ok r ∧
      (r.2.loc = .exited ↔ p.loc = .exited) := by
  induction k generalizing w p with
  | zero => exact ⟨_, rfl, Iff.rfl⟩
  | succ k ih =>
    obtain ⟨next, hnext, hstanding, hexited⟩ := h.step (not_overflows_nil shop p)
    obtain ⟨r, hr, hloc⟩ := ih hstanding
    rw [List.replicate_succ, play_cons (Prod.ext hnext rfl), hr]
    refine ⟨_, rfl, ?_⟩
    rw [hloc, hexited]
    simp [not_exits_nil]

end Login

section Sessions

variable {ι : Type} [DecidableEq ι] {w : World} {sessions : ι → Text × List Text}
  {schedule : List ι} {username : Text}

/-- An account loads exactly when its postal code and its expiry are numbers. -/
theorem account_loads_iff {e : Entry UserKey}
    (h : (interleaved w sessions schedule).users[username]? = some e) :
    (∃ u, (run db (getUser username) (interleaved w sessions schedule)).1 = .ok u) ↔
      ZipReads e ∧ ExpReads e := by
  have hgood := good_interleaved w sessions schedule
  generalize interleaved w sessions schedule = w' at h hgood ⊢
  have hopen : run db (openUser username) w' = (.ok (some e), w') := by
    rw [← h, ← hgood.openUser]
    rfl
  have hmem : username ∈ w'.users := by
    rw [Database.mem_iff_isSome, h]
    rfl
  have hwp := intact_loadEntry ((hgood.accounts username).mp hmem) (hgood.users username e h)
  obtain ⟨g, -, hend⟩ := wp_run implements_integrity ⟨hgood, subset_rfl⟩ hwp
  rw [getUser_eq, run_bind_ok hopen]
  change (∃ u, (run db (loadEntry username e) w').1 = .ok u) ↔ _
  cases hr : (run db (loadEntry username e) w').1 with
  | ok u =>
    rw [hr] at hend
    exact iff_of_true ⟨u, rfl⟩ hend.2.2.2
  | error x =>
    rw [hr] at hend
    refine iff_of_false ?_ hend.2.1
    rintro ⟨u, hu⟩
    cases hu

/-- A session raises no exception exactly when no numeral typed overflows. -/
theorem session_ends_by_exit_iff
    (h : ∃ u, (run sys (local_storage.getUser username) (interleaved w sessions schedule)).1 = .ok u)
    (lines : List Text) :
    (∃ r, (run sys (session username lines) (interleaved w sessions schedule)).1 = .ok r ∧
        (r.2.loc = .exited → ∃ e ∈ r.1, e.1.Exits e.2)) ↔
      ∀ front line back, lines = front ++ line :: back →
        ∀ r, (run sys (session username front) (interleaved w sessions schedule)).1 = .ok r →
          ¬ r.2.Overflows initShop line := by
  obtain ⟨u, hu⟩ := h
  obtain ⟨p, hp, hloc, hstanding⟩ := (good_interleaved w sessions schedule).login hu
  simp only [run_session hp]
  rw [← hstanding.play_iff]
  constructor
  · rintro ⟨r, hr, -⟩
    exact ⟨r, hr⟩
  · rintro ⟨r, hr⟩
    refine ⟨r, hr, fun hexited => ?_⟩
    exact ((hstanding.play_exited lines hr).2.mp hexited).resolve_left hloc

/-- The end of input keeps a session waiting that its lines have not ended. -/
theorem end_of_input_waits
    (h : ∃ u, (run sys (local_storage.getUser username) (interleaved w sessions schedule)).1 = .ok u)
    {lines : List Text} {r : Trail × Proc}
    (hr : (run sys (session username lines) (interleaved w sessions schedule)).1 = .ok r) :
    (r.2.loc = .exited ↔ ∃ e ∈ r.1, e.1.Exits e.2) ∧
      ∀ k, ∃ r', (run sys (session username (lines ++ List.replicate k []))
          (interleaved w sessions schedule)).1 = .ok r' ∧
        (r'.2.loc = .exited ↔ r.2.loc = .exited) := by
  obtain ⟨u, hu⟩ := h
  obtain ⟨p, hp, hloc, hstanding⟩ := (good_interleaved w sessions schedule).login hu
  simp only [run_session hp] at hr ⊢
  obtain ⟨hlast, hexited⟩ := hstanding.play_exited lines hr
  constructor
  · rw [hexited]
    simp [hloc]
  · intro k
    obtain ⟨r', hr', hiff⟩ := hlast.play_blanks k
    rw [play_append, run_bind_ok (Prod.ext hr rfl), run_bind_ok (Prod.ext hr' rfl)]
    exact ⟨_, rfl, hiff⟩

end Sessions

end OnlineShoppingCenter

namespace OnlineShoppingCenter

open TextCodec ColumnFamilies EffectProgram StorageSystem

attribute [local instance] posix

/-- The databases of `initDB`, before any session. -/
def freshWorld : World := interleaved sampleWorld (fun _ : Fin 0 => ([], [])) []

/-- The first sample user leaves a toy in the cart. -/
def visit : Fin 1 → Text × List Text :=
  fun _ => ("testuser001".toList, ["addtocart 653569401025".toList, "exit".toList])

/-- The databases after that session. -/
def visitedWorld : World := interleaved sampleWorld visit (List.replicate 60 0)

/-- Numbers are typed at two prompts. -/
def quantityLines : List Text :=
  ["addtocart 653569401025 2", "cart", "changeqty 653569401025 1"].map String.toList

/-- The cart is on file, and the user is let in and can use it. -/
theorem visited : (visitedWorld.users["testuser001".toList]?).any (fun e =>
      e .items_in_cart = some "653569401025:1".toList) = true ∧
    (run sys (local_storage.getUser "testuser001".toList) visitedWorld).1.toOption.isSome = true ∧
      (run sys (session "testuser001".toList quantityLines) visitedWorld).1.toOption.isSome =
        true := by
  decide +kernel

/-- A user with an address and a card loads. -/
theorem sample_account_loads : ∃ e, visitedWorld.users["testuser001".toList]? = some e ∧
    ((∃ u, (run db (getUser "testuser001".toList) visitedWorld).1 = .ok u) ↔
      ZipReads e ∧ ExpReads e) := by
  obtain ⟨e, he, -⟩ := (Option.any_eq_true _ _).mp visited.1
  unfold visitedWorld at he ⊢
  exact ⟨e, he, account_loads_iff he⟩

/-- The Canadian sample user, whose postal code is no number. -/
theorem testuser002_does_not_load :
    "testuser002".toList ∈ freshWorld.users ∧
      raised (run db (getUser "testuser002".toList) freshWorld).1 = some .invalid_argument := by
  decide +kernel

theorem sample_session_ends_by_exit :
    (∃ r, (run sys (session "testuser001".toList (quantityLines ++ ["exit".toList]))
        visitedWorld).1 = .ok r ∧ (r.2.loc = .exited → ∃ e ∈ r.1, e.1.Exits e.2)) ↔
      ∀ front line back, quantityLines ++ ["exit".toList] = front ++ line :: back →
        ∀ r, (run sys (session "testuser001".toList front) visitedWorld).1 = .ok r →
          ¬ r.2.Overflows initShop line :=
  session_ends_by_exit_iff (ok_of_isSome visited.2.1) _

/-- A UPC of twenty digits ends the program. -/
theorem long_upc_raises :
    raised (run sys (session "testuser003".toList
      ["addtocart 99999999999999999999".toList]) freshWorld).1 = some .out_of_range := by
  decide +kernel

theorem sample_end_of_input :
    ∃ r, (run sys (session "testuser001".toList quantityLines) visitedWorld).1 = .ok r ∧
      ((r.2.loc = .exited ↔ ∃ e ∈ r.1, e.1.Exits e.2) ∧
        ∀ k, ∃ r', (run sys (session "testuser001".toList (quantityLines ++ List.replicate k []))
            visitedWorld).1 = .ok r' ∧ (r'.2.loc = .exited ↔ r.2.loc = .exited)) := by
  obtain ⟨r, hr⟩ := ok_of_isSome visited.2.2
  exact ⟨r, hr, end_of_input_waits (ok_of_isSome visited.2.1) hr⟩

theorem sample_login :
    (run sys (local_storage.getUser "testuser003".toList) freshWorld).1.toOption.isSome = true := by
  decide +kernel

/-- No number of empty lines at the end of the input stops the session. -/
theorem empty_input_waits : ¬ ∃ k, ∀ r,
    (run sys (session "testuser003".toList (List.replicate k [])) freshWorld).1 = .ok r →
      r.2.loc = .exited := by
  rintro ⟨k, hexited⟩
  obtain ⟨u, hu⟩ := ok_of_isSome sample_login
  obtain ⟨p, hp, hloc, hstanding⟩ := (good_initDB sampleWorld).login hu
  obtain ⟨r, hr, hiff⟩ := hstanding.play_blanks k
  exact hloc (hiff.mp (hexited r ((congrArg Prod.fst (run_session hp _)).trans hr)))

end OnlineShoppingCenter
