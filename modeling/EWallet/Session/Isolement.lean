import EWallet.Session.Application

namespace EWallet.Session

open Firestore Commandes

/-- Two stores with the same wallet and favourites of a user and the same menus. -/
structure Accord (u : Utilisateur) (db db' : Database) : Prop where
  wallet : db.doc? utilisateurs u.persoId = db'.doc? utilisateurs u.persoId
  favoris : db (restaurantsFav u.persoId) = db' (restaurantsFav u.persoId)
  menus : ∀ restoId rubrique, db (menu restoId rubrique) = db' (menu restoId rubrique)

/-- The sessions of a user on two devices look alike whatever the user does and whatever the
store becomes meanwhile. -/
def Pareilles (u : Utilisateur) (s s' : Application) : Prop :=
  ∀ gestes, vue u (session s u gestes) = vue u (session s' u gestes)

structure Isolees (u : Utilisateur) (s s' : Application) : Prop where
  pareilles : Pareilles u s s'
  gauche : Pareilles u s (demarrage s.store)
  droite : Pareilles u s' (demarrage s'.store)

/-- Nothing is left of earlier sessions: no line in the cart, no favourite, the flag `isFilled`
down and no `fillIdList` awaiting its answer. -/
structure Neuve (s : Application) : Prop where
  listeCommande : s.appareil.listeCommande = []
  restoFavIdList : s.restoFavIdList = []
  isFilled : s.isFilled = false
  enVol : s.enVol = []

theorem favorisDe_accord (u : Utilisateur) (db db' : Database) (accord : Accord u db db') :
    favorisDe db u.persoId = favorisDe db' u.persoId := by
  rw [favorisDe, favorisDe, accord.favoris]

theorem accord_refl (u : Utilisateur) (db : Database) : Accord u db db :=
  ⟨rfl, rfl, fun _ _ => rfl⟩

theorem accord_update (u : Utilisateur) (db db' : Database) (accord : Accord u db db') (path : Path)
    (docs : OrderedMap String Doc) :
    Accord u (Function.update db path docs) (Function.update db' path docs) where
  wallet := by
    by_cases there : utilisateurs = path
    · subst there
      simp [Database.doc?]
    · simpa [Database.doc?, Function.update_of_ne there] using accord.wallet
  favoris := by
    by_cases there : restaurantsFav u.persoId = path
    · simp [there]
    · simpa [Function.update_of_ne there] using accord.favoris
  menus restoId rubrique := by
    by_cases there : menu restoId rubrique = path
    · simp [there]
    · simpa [Function.update_of_ne there] using accord.menus restoId rubrique

structure Propre (u : Utilisateur) (s : Application) : Prop where
  user : s.user = some u
  enVol : ∀ persoId ∈ s.enVol, persoId = u.persoId

theorem propre_faire (u : Utilisateur) (s : Application) (g : Geste) (propre : Propre u s) :
    Propre u (faire s g) := by
  cases g with
  | listRestoFav =>
      simp only [faire, fillIdList, propre.user]
      split
      · exact propre
      · refine ⟨rfl, fun persoId member => ?_⟩
        rcases List.mem_append.mp member with old | new
        · exact propre.enVol persoId old
        · exact List.mem_singleton.mp new
  | favorisRecus k =>
      simp only [faire, favorisRecus]
      split
      · exact propre
      · exact ⟨propre.user, fun persoId member =>
          propre.enVol persoId (List.mem_of_mem_eraseIdx member)⟩
  | menuCharge page =>
      simp only [faire, menuCharge]
      split
      · exact propre
      · exact ⟨propre.user, propre.enVol⟩
  | agir act =>
      simp only [faire, agir, propre.user]
      exact ⟨rfl, propre.enVol⟩
  | serveur path docs => exact ⟨propre.user, propre.enVol⟩

theorem faire_accord (u : Utilisateur) (s : Application) (g : Geste) (propre : Propre u s)
    (db : Database) (accord : Accord u s.store db) :
    ∃ db', faire { s with store := db } g = { faire s g with store := db' } ∧
      Accord u (faire s g).store db' := by
  cases g with
  | listRestoFav =>
      refine ⟨db, ?_⟩
      by_cases filled : s.isFilled
      · simpa [faire, fillIdList, propre.user, filled] using accord
      · simpa [faire, fillIdList, propre.user, filled] using accord
  | favorisRecus k =>
      refine ⟨db, ?_⟩
      cases pending : s.enVol[k]? with
      | none => simpa [faire, favorisRecus, pending] using accord
      | some persoId =>
          have own := propre.enVol persoId (List.mem_of_getElem? pending)
          have same := favorisDe_accord u s.store db accord
          simpa [faire, favorisRecus, pending, own, same] using accord
  | menuCharge page =>
      refine ⟨db, ?_⟩
      cases opened : s.appareil.menus[page]? with
      | none => simpa [faire, menuCharge, opened] using accord
      | some m =>
          have same := accord.menus m.restoId m.rubrique
          simpa [faire, menuCharge, opened, same] using accord
  | agir act =>
      refine ⟨db, ?_⟩
      simpa [faire, agir, propre.user] using accord
  | serveur path docs =>
      exact ⟨Function.update db path docs, rfl, accord_update u s.store db accord path docs⟩

theorem run_accord (u : Utilisateur) (s : Application) (gestes : List Geste) (propre : Propre u s)
    (db : Database) (accord : Accord u s.store db) :
    ∃ db', Machine.run faire { s with store := db } gestes =
        { Machine.run faire s gestes with store := db' } ∧
      Accord u (Machine.run faire s gestes).store db' := by
  induction gestes generalizing s db with
  | nil => exact ⟨db, rfl, accord⟩
  | cons g rest ih =>
      obtain ⟨db', same, accord'⟩ := faire_accord u s g propre db accord
      rw [Machine.run_cons, Machine.run_cons, same]
      exact ih (faire s g) (propre_faire u s g propre) db' accord'

theorem fermerPages_vide (d : Appareil) (empty : d.listeCommande = []) :
    fermerPages d = lancement := by
  simp only [fermerPages, empty, List.not_mem_nil, if_false]
  rfl

theorem connecter_eq (s : Application) (u : Utilisateur) :
    connecter s u =
      ⟨s.store, some u, fermerPages s.appareil, s.restoFavIdList, s.isFilled,
        if s.isFilled then s.enVol else s.enVol ++ [u.persoId], []⟩ := by
  simp only [connecter, fillIdList]
  split
  · rfl
  · rfl

theorem connecter_neuve (s : Application) (neuve : Neuve s) (u : Utilisateur) :
    connecter s u = ⟨s.store, some u, lancement, [], false, [u.persoId], []⟩ := by
  rw [connecter_eq, neuve.isFilled, neuve.restoFavIdList, neuve.enVol,
    fermerPages_vide s.appareil neuve.listeCommande]
  rfl

theorem neuve_demarrage (db : Database) : Neuve (demarrage db) := ⟨rfl, rfl, rfl, rfl⟩

theorem pareilles_neuves (u : Utilisateur) (s s' : Application) (neuve : Neuve s)
    (neuve' : Neuve s') (accord : Accord u s.store s'.store) : Pareilles u s s' := by
  intro gestes
  have first := connecter_neuve s neuve u
  have propre : Propre u (connecter s u) := by
    rw [first]
    exact ⟨rfl, fun persoId member => List.mem_singleton.mp member⟩
  have store : (connecter s u).store = s.store := by rw [first]
  have same : connecter s' u = { connecter s u with store := s'.store } := by
    rw [first, connecter_neuve s' neuve' u]
  rw [← store] at accord
  obtain ⟨db, runs, agree⟩ := run_accord u (connecter s u) gestes propre s'.store accord
  rw [session, session, same, runs]
  simp only [vue, agree.wallet]

def apport (s : Application) (k : ℕ) : List Value :=
  ((s.enVol[k]?).map (favorisDe s.store)).getD []

theorem favoris_recus (s : Application) (k : ℕ) :
    (favorisRecus s k).restoFavIdList = s.restoFavIdList ++ apport s k := by
  simp only [favorisRecus, apport]
  cases s.enVol[k]? with
  | none => simp
  | some persoId => rfl

theorem apport_pareilles (u : Utilisateur) (s s' : Application) (same : Pareilles u s s')
    (gestes : List Geste) (k : ℕ) :
    apport (session s u gestes) k = apport (session s' u gestes) k := by
  have shown : (session s u gestes).restoFavIdList = (session s' u gestes).restoFavIdList :=
    congrArg Vue.favoris (same gestes)
  have next : (session s u (gestes ++ [.favorisRecus k])).restoFavIdList =
      (session s' u (gestes ++ [.favorisRecus k])).restoFavIdList :=
    congrArg Vue.favoris (same (gestes ++ [Geste.favorisRecus k]))
  rw [session, session, Machine.run_snoc, Machine.run_snoc] at next
  change (favorisRecus (session s u gestes) k).restoFavIdList =
    (favorisRecus (session s' u gestes) k).restoFavIdList at next
  rw [favoris_recus, favoris_recus, shown] at next
  exact List.append_cancel_left next

theorem seule_attente (t : Application) (before : apport t 1 = [])
    (after : apport (fillIdList t) 1 ≠ []) : t.isFilled = false ∧ t.enVol.length ≤ 1 := by
  cases signed : t.user with
  | none => exact absurd before (by simpa [fillIdList, signed] using after)
  | some u =>
      by_cases filled : t.isFilled
      · exact absurd before (by simpa [fillIdList, signed, filled] using after)
      · refine ⟨by simpa using filled, ?_⟩
        by_contra several
        apply after
        have inside : (t.enVol ++ [u.persoId])[1]? = t.enVol[1]? :=
          List.getElem?_append_left (by omega)
        simpa [fillIdList, signed, filled, apport, inside] using before

def unFavori : OrderedMap String Doc :=
  OrderedMap.single "f" (Doc.ofFields [("id", .string "R")])

theorem favorisDe_unFavori (db : Database) (persoId : String) :
    favorisDe (Function.update db (restaurantsFav persoId) unFavori) persoId =
      [.string "R"] := by
  rw [favorisDe, Function.update_self]
  rfl

def favoriAjoute (u : Utilisateur) : Geste := .serveur (restaurantsFav u.persoId) unFavori

theorem attente_connecter (u : Utilisateur) (s : Application)
    (same : Pareilles u s (demarrage s.store)) : s.isFilled = false ∧ s.enVol = [] := by
  have first := connecter_neuve (demarrage s.store) (neuve_demarrage s.store) u
  have before : apport (session s u [favoriAjoute u]) 1 = [] := by
    rw [apport_pareilles u s _ same, session, first]
    rfl
  -- On a fresh device the favourites page sends a second `get`, and it brings the favourite.
  have after : apport (fillIdList (session s u [favoriAjoute u])) 1 =
      [.string "R"] := by
    calc apport (session s u [favoriAjoute u, .listRestoFav]) 1
        = apport (session (demarrage s.store) u [favoriAjoute u, .listRestoFav]) 1 :=
          apport_pareilles u s _ same _ 1
      _ = favorisDe (Function.update s.store (restaurantsFav u.persoId) unFavori) u.persoId := by
          rw [session, first]
          rfl
      _ = [.string "R"] := favorisDe_unFavori s.store u.persoId
  obtain ⟨down, few⟩ := seule_attente (session s u [favoriAjoute u]) before (by simp [after])
  rw [session, connecter_eq] at down few
  have filled : s.isFilled = false := down
  refine ⟨filled, List.length_eq_zero_iff.mp ?_⟩
  simpa [favoriAjoute, faire, filled] using few

theorem neuve_of_pareilles (u : Utilisateur) (s : Application)
    (same : Pareilles u s (demarrage s.store)) : Neuve s := by
  have start := same []
  rw [session, session, connecter_neuve _ (neuve_demarrage s.store) u, connecter_eq] at start
  obtain ⟨filled, waiting⟩ := attente_connecter u s same
  refine ⟨?_, congrArg Vue.favoris start, filled, waiting⟩
  exact List.map_eq_nil_iff.mp (congrArg Vue.panier start)

def Entamee (s : Application) : Prop := s.isFilled = true ∨ s.enVol ≠ []

theorem entamee_fillIdList (s : Application) (entamee : Entamee s) : Entamee (fillIdList s) := by
  simp only [fillIdList]
  split
  · exact entamee
  · split
    · exact entamee
    · exact .inr (by simp)

theorem entamee_connecter (s : Application) (u : Utilisateur) : Entamee (connecter s u) := by
  rw [Entamee, connecter_eq]
  by_cases filled : s.isFilled
  · exact .inl filled
  · exact .inr (by simp [filled])

theorem entamee_faire (s : Application) (g : Geste) (entamee : Entamee s) :
    Entamee (faire s g) := by
  cases g with
  | listRestoFav => exact entamee_fillIdList s entamee
  | favorisRecus k =>
      simp only [faire, favorisRecus]
      split
      · exact entamee
      · exact .inl rfl
  | menuCharge page =>
      simp only [faire, menuCharge]
      split
      · exact entamee
      · exact entamee
  | agir act =>
      simp only [faire, agir]
      split
      · exact entamee
      · exact entamee
  | serveur path docs => exact entamee

theorem entamee_suivre (s : Application) (event : Evenement) (entamee : Entamee s)
    (running : event ≠ .lancer) : Entamee (suivre s event) := by
  cases event with
  | lancer => exact absurd rfl running
  | connecter u => exact entamee_connecter s u
  | googleSignOut => exact entamee
  | geste g => exact entamee_faire s g entamee

theorem second_user_never_isolated (db : Database) (before after : List Evenement)
    (first second : Utilisateur) (running : .lancer ∉ after) :
    ¬ Pareilles second (histoire db (before ++ .connecter first :: after))
      (demarrage (histoire db (before ++ .connecter first :: after)).store) := by
  intro same
  have clean := neuve_of_pareilles second _ same
  have entamee : Entamee (histoire db (before ++ .connecter first :: after)) := by
    rw [histoire, Machine.run_append, Machine.run_cons]
    apply Machine.run_invariant suivre Entamee (fun _ event => event ≠ .lancer) entamee_suivre
    · exact entamee_connecter _ first
    · rw [Machine.along_iff_prefixes]
      intro front event back split equal
      exact running (by simp [split, equal])
  rcases entamee with filled | waiting
  · rw [clean.isFilled] at filled
    exact absurd filled (by decide)
  · exact waiting clean.enVol

/-- Two histories of a device are isolated from a later user if and only if neither leaves
anything behind in the globals. -/
theorem sessions_isolated_iff_nothing_left (db₁ db₂ : Database) (events₁ events₂ : List Evenement)
    (u : Utilisateur)
    (accord : Accord u (histoire db₁ events₁).store (histoire db₂ events₂).store) :
    Isolees u (histoire db₁ events₁) (histoire db₂ events₂) ↔
      Neuve (histoire db₁ events₁) ∧ Neuve (histoire db₂ events₂) := by
  constructor
  · intro isolees
    exact ⟨neuve_of_pareilles u _ isolees.gauche, neuve_of_pareilles u _ isolees.droite⟩
  · intro clean
    obtain ⟨first, second⟩ := clean
    exact ⟨pareilles_neuves u _ _ first second accord,
      pareilles_neuves u _ _ first (neuve_demarrage _) (accord_refl u _),
      pareilles_neuves u _ _ second (neuve_demarrage _) (accord_refl u _)⟩

def ada : Utilisateur := ⟨"u", some "Ada"⟩

def bob : Utilisateur := ⟨"v", some "Bob"⟩

def baseRiz : Database
  | ["restaurants", "R", "plats"] =>
      OrderedMap.single "riz" (Doc.ofFields [("nom", .string "Riz"), ("prix", .number (.int 1000))])
  | ["utilisateurs", "u", "restaurants fav"] => unFavori
  | _ => OrderedMap.empty

theorem launched_again_isolated :
    Isolees bob (histoire baseRiz [])
      (histoire baseRiz [.connecter ada, .googleSignOut, .lancer]) :=
  (sessions_isolated_iff_nothing_left baseRiz baseRiz [] [.connecter ada, .googleSignOut, .lancer]
    bob (accord_refl bob baseRiz)).mpr ⟨neuve_demarrage baseRiz, neuve_demarrage baseRiz⟩

def passageAda : List Evenement :=
  [.connecter ada, .geste (.favorisRecus 0), .geste (.agir (.ouvrirMenu "R" .plats)),
    .geste (.menuCharge 0), .geste (.agir (.menuPlus 0 0)), .googleSignOut]

def commandeBob : List Geste :=
  [.agir (.ouvrirCommande "R"), .agir (.valider 0), .agir (.oui 0 (fun _ => 0))]

/-- After Ada, Bob sees her favourite and her dish, and orders the dish in his name. -/
theorem cart_and_favourites_reach_next_user :
    Accord bob (histoire baseRiz []).store (histoire baseRiz passageAda).store ∧
      ¬ Pareilles bob (histoire baseRiz []) (histoire baseRiz passageAda) ∧
      (vue bob (session (histoire baseRiz passageAda) bob [])).favoris = [.string "R"] ∧
      (vue bob (session (histoire baseRiz passageAda) bob [])).panier =
        [⟨"Riz", some "plats", 1000, 1⟩] ∧
      (vue bob (session (histoire baseRiz passageAda) bob commandeBob)).commandes.map
        (fun ajout =>
          (ajout.restoId, ajout.data.string? "id du client", ajout.data.string? "nom")) =
        [("R", some "v", some "Riz")] := by
  have seen : (vue bob (session (histoire baseRiz passageAda) bob [])).favoris =
      [.string "R"] := by decide +kernel
  refine ⟨accord_refl bob baseRiz, fun same => ?_, seen, by decide +kernel, by decide +kernel⟩
  have fresh := congrArg Vue.favoris (same [])
  rw [seen] at fresh
  exact absurd fresh (by decide +kernel)

end EWallet.Session
