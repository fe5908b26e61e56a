import Scalibr.Go.Cmp
import Scalibr.Go.Errors
import Scalibr.Go.Slices
import Scalibr.Plugin
import Scalibr.Inventory
import Scalibr.Compare
import Scalibr.Result
import Scalibr.Config
import Scalibr.Standalone
import Scalibr.Scan
import Scalibr.Container
import Scalibr.Session
import Scalibr.Detector.FileBrowser
