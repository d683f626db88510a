import EWallet.Library.Machine
import EWallet.Library.Interleaving
import EWallet.Library.Engagement
import EWallet.Library.Decoding
import EWallet.Library.Calls
import EWallet.Library.Shopping
import EWallet.Library.OrderedMap
import EWallet.Library.Selection
import EWallet.Library.Firestore
import EWallet.Library.LocalTime
import EWallet.Collections
import EWallet.Facture.Continuer
import EWallet.Facture.Comptes
import EWallet.Facture.Appariement
import EWallet.Facture.UneFois
import EWallet.Facture.Decouvert
import EWallet.Facture.Independance
import EWallet.Facture.Reprise
import EWallet.Facture.Serie
import EWallet.Facture.Chevauchement
import EWallet.Authentification.Entrees
import EWallet.Authentification.Portefeuilles
import EWallet.Authentification.Inscription
import EWallet.Authentification.GrandLivre
import EWallet.Commandes.Appareil
import EWallet.Commandes.Confirmation
import EWallet.Commandes.Livraison
import EWallet.Commandes.Rejets
import EWallet.Commandes.Provenance
import EWallet.Session.Application
import EWallet.Session.Isolement
import EWallet.Session.Favoris
import EWallet.Session.Restaurants
import EWallet.Session.Vitrine
import EWallet.Session.Navigation
import EWallet.Session.Parcours
import EWallet.Session.Memoire
import EWallet.Session.Images
import EWallet.Session.Achats
import EWallet.Commandes.Panier
import EWallet.Commandes.Compteurs
import EWallet.Commandes.Bilan
import EWallet.Commandes.Prix
import EWallet.Commandes.AllerRetour
import EWallet.Commandes.Retrait
import EWallet.Commandes.Dates
import EWallet.Facture.Page
import EWallet.Commandes.EnCours
import EWallet.Accueil.Transactions
import EWallet.Accueil.Carte
import EWallet.Session.Reseau
