import NydusTest.Python.Json
import NydusTest.Python.Encode
import NydusTest.Python.Decode
import NydusTest.Python.RoundTrip
import NydusTest.Python.Loads
import NydusTest.Python.Host
import NydusTest.Config.RafsConf
import NydusTest.Config.Dump
import NydusTest.Config.Backend
import NydusTest.Config.BlobEntry
import NydusTest.Config.Reload
import NydusTest.Image.RafsImage
import NydusTest.Image.CleanUp
import NydusTest.Image.Create
import NydusTest.Image.BuildCommand
import NydusTest.Daemon.WaitForMount
import NydusTest.Daemon.Lifecycle
import NydusTest.Daemon.Teardown
import NydusTest.Daemon.Session
import NydusTest.Daemon.Params
