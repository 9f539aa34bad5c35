import Billboard.Client.EditOnce
import Billboard.Client.EditTarget
import Billboard.Client.Listeners
import Billboard.Client.Preview
import Billboard.RoundTrip.Creating
import Billboard.RoundTrip.Editing
import Billboard.Server.Atomicity
import Billboard.Server.Availability
import Billboard.Server.Connection
import Billboard.Server.Crash
import Billboard.Server.Display
import Billboard.Server.Interleaving
import Billboard.Server.Locality
import Billboard.Server.Refinement
import Billboard.Session.Confinement
import Billboard.Session.Windows
