import EWallet.Library.LocalTime
import EWallet.Commandes.Confirmation

namespace EWallet.Commandes

open Firestore LocalTime

/-- `toString` of a local `DateTime`: the fields the clock of the device shows, and no offset.
`decalage` is the distance of that clock from universal time, at each instant. -/
def texte (decalage : ℤ → ℤ) (date : ℤ) : Fields := fields (wallClock decalage date)

/-- `DateTime.parse` of a text without an offset: an instant with the fields of the text. -/
structure Lecture (decalage : ℤ → ℤ) where
  parse : Fields → ℤ
  choix : Picks (texte decalage) parse

def fromDateTime (date : ℤ) : ℤ := date

def fromTimestamp {decalage : ℤ → ℤ} (lecture : Lecture decalage) (timestamp : ℤ) : ℤ :=
  -- exact to the microsecond, both ways
  lecture.parse (texte decalage timestamp)

def relue {decalage : ℤ → ℤ} (lecture : Lecture decalage) (now : ℤ) (id : String)
    (user : Utilisateur) (restoId : String) (commande : CommandeNewVersion) (d : ℤ) :
    Option CommandeEnCours :=
  testClient (fromTimestamp lecture) now (id, document user restoId (fromDateTime d) commande)

theorem relue_eq {decalage : ℤ → ℤ} (lecture : Lecture decalage) (now : ℤ) (id restoId : String)
    (user : Utilisateur) (commande : CommandeNewVersion) (d : ℤ) :
    relue lecture now id user restoId commande d =
      some ⟨id, commande.info, user.nom, some "7", some (.double (.ofRat (1 / 20))),
        fromTimestamp lecture (fromDateTime d), some restoId,
        setDuree (now - fromTimestamp lecture (fromDateTime d))⟩ :=
  testClient_document (fromTimestamp lecture) (fromDateTime d) now id restoId user commande

theorem texte_eq_iff (decalage : ℤ → ℤ) (d d' : ℤ) :
    texte decalage d' = texte decalage d ↔ wallClock decalage d' = wallClock decalage d :=
  fields_injective.eq_iff

theorem texte_fromTimestamp {decalage : ℤ → ℤ} (lecture : Lecture decalage) (d : ℤ) :
    texte decalage (fromTimestamp lecture (fromDateTime d)) = texte decalage d :=
  lecture.choix d

theorem fromTimestamp_twice {decalage : ℤ → ℤ} (lecture : Lecture decalage) (d : ℤ) :
    fromTimestamp lecture (fromDateTime (fromTimestamp lecture d)) = fromTimestamp lecture d :=
  congrArg lecture.parse (lecture.choix d)

theorem fromTimestamp_all_iff (decalage : ℤ → ℤ) (d : ℤ) :
    (∀ lecture : Lecture decalage, fromTimestamp lecture (fromDateTime d) = d) ↔
      ∀ d', wallClock decalage d' = wallClock decalage d → d' = d := by
  have alone := picked_iff_alone (texte decalage) d
  simp only [texte_eq_iff] at alone
  rw [← alone]
  constructor
  · intro back parse picks
    exact back ⟨parse, picks⟩
  · intro back lecture
    exact back lecture.parse lecture.choix

/-- An order keeps its date on every device with this local time if and only if no other instant
has the same local time. Of two instants that share theirs, no device gives back both. -/
theorem order_date_survives_iff (decalage : ℤ → ℤ) (d : ℤ) :
    ((∀ lecture : Lecture decalage, fromTimestamp lecture (fromDateTime d) = d) ↔
      ∀ d', wallClock decalage d' = wallClock decalage d → d' = d) ∧
    ∀ (lecture : Lecture decalage) (d' : ℤ), d' ≠ d →
      wallClock decalage d' = wallClock decalage d →
        ¬ (fromTimestamp lecture (fromDateTime d') = d' ∧
          fromTimestamp lecture (fromDateTime d) = d) := by
  refine ⟨fromTimestamp_all_iff decalage d, ?_⟩
  intro lecture d' different same
  exact not_both_picked (texte decalage) lecture.parse ((texte_eq_iff decalage d d').mpr same)
    different

theorem dates_survive_forward {decalage : ℤ → ℤ}
    (forward : ∀ s t, s ≤ t → decalage s ≤ decalage t) (lecture : Lecture decalage) (d : ℤ) :
    fromTimestamp lecture (fromDateTime d) = d := by
  apply (fromTimestamp_all_iff decalage d).mpr
  intro d' same
  exact wallClock_injective decalage forward same

theorem dates_survive_change_iff (instant avant apres d : ℤ) :
    (∀ lecture : Lecture (changed instant avant apres),
        fromTimestamp lecture (fromDateTime d) = d) ↔
      ¬ (instant - (avant - apres) ≤ d ∧ d < instant + (avant - apres)) := by
  rw [fromTimestamp_all_iff, ← shown_twice_iff, not_exists]
  apply forall_congr'
  intro d'
  rw [not_and', ne_eq, not_not]

def paris : ℤ → ℤ := changed 1635642000000000 7200000000 3600000000

def lectureParis : Lecture paris where
  parse champs := ofFields champs - paris (ofFields champs - 7200000000)
  choix := by
    intro t
    rw [texte_eq_iff]
    simp only [texte, ofFields_fields, wallClock, paris, changed]
    split
    · rw [if_pos (by omega)]
      omega
    · split
      · omega
      · rw [if_neg (by omega)]
        omega

theorem july_order_keeps_date :
    (∀ lecture : Lecture paris,
        fromTimestamp lecture (fromDateTime 1625137200000000) = 1625137200000000) ∧
      ¬ (fromTimestamp lectureParis (fromDateTime 1635640200000000) = 1635640200000000 ∧
        fromTimestamp lectureParis (fromDateTime 1635643800000000) = 1635643800000000) := by
  constructor
  · apply (order_date_survives_iff paris 1625137200000000).1.mpr
    intro d' same
    by_contra different
    have twice := (shown_twice_iff _ _ _ _).mp ⟨d', different, same⟩
    omega
  · exact (order_date_survives_iff paris 1635643800000000).2 lectureParis 1635640200000000
      (by decide) (by decide +kernel)

/-- 31 October 2021, 0:30 and 1:30 universal time: the clock shows 2:30 both times, so that no
device gives both back. On this one an order of 1:30 comes back an hour early, and is shown as an
hour old as soon as it is sent. -/
theorem order_of_repeated_hour_moves :
    texte paris 1635640200000000 = ⟨⟨2021, 10, 31⟩, 2, 30, 0, 0⟩ ∧
      texte paris 1635643800000000 = ⟨⟨2021, 10, 31⟩, 2, 30, 0, 0⟩ ∧
      (∀ lecture : Lecture paris,
        ¬ (fromTimestamp lecture (fromDateTime 1635640200000000) = 1635640200000000 ∧
          fromTimestamp lecture (fromDateTime 1635643800000000) = 1635643800000000)) ∧
      fromTimestamp lectureParis (fromDateTime 1635643800000000) = 1635640200000000 ∧
      (relue lectureParis 1635643800000000 "C" ⟨"u", some "Ada"⟩ "R"
          ⟨"Riz", some "plats", 1000, 1⟩ 1635643800000000).map
            (fun commande => (commande.date, commande.duree)) =
        some (1635640200000000, "Il y a 1 heure") := by
  have first : texte paris 1635640200000000 = ⟨⟨2021, 10, 31⟩, 2, 30, 0, 0⟩ := by decide +kernel
  have second : texte paris 1635643800000000 = ⟨⟨2021, 10, 31⟩, 2, 30, 0, 0⟩ := by decide +kernel
  have early : fromTimestamp lectureParis (fromDateTime 1635643800000000) = 1635640200000000 := by
    decide +kernel
  refine ⟨first, second, ?_, early, ?_⟩
  · intro lecture
    exact not_both_picked (texte paris) lecture.parse (first.trans second.symm) (by decide)
  · rw [relue_eq, early]
    decide +kernel

end EWallet.Commandes
