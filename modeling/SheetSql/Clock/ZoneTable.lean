import SheetSql.Clock.Zone

namespace SheetSql.Zone

/-! The zones that can be named, each with the changes that its offset is known to have. -/

def utc : Zone where
  name := "UTC"
  initial := 0
  changes := []

def tokyo : Zone where
  name := "Asia/Tokyo"
  initial := 33539
  changes :=
    [.oldEast 2587712400 32400, .oldEast 683802000 36000, .oldEast 672310800 32400,
     .oldEast 654771600 36000, .oldEast 640861200 32400, .oldEast 620298000 36000,
     .oldEast 609411600 32400, .oldEast 588848400 36000, .oldEast 577962000 32400]

def kolkata : Zone where
  name := "Asia/Kolkata"
  initial := 21208
  changes :=
    [.oldEast 3645237208 21200, .oldEast 3155694800 19270, .oldEast 2019705670 19800,
     .oldEast 891581400 23400, .oldEast 872058600 19800, .oldEast 862637400 23400,
     .oldEast 764145000 19800]

def kathmandu : Zone where
  name := "Asia/Kathmandu"
  initial := 20476
  changes :=
    [.oldEast 1577943676 19800, .east 504901800 20700]

def newYork : Zone where
  name := "America/New_York"
  initial := -17762
  changes :=
    [.oldWest 2717650800 18000, .oldWest 1633280400 14400, .oldWest 1615140000 18000,
     .oldWest 1601830800 14400, .oldWest 1583690400 18000, .oldWest 1570381200 14400,
     .oldWest 1551636000 18000, .oldWest 1536512400 14400, .oldWest 1523210400 18000,
     .oldWest 1504458000 14400, .oldWest 1491760800 18000, .oldWest 1473008400 14400,
     .oldWest 1459706400 18000, .oldWest 1441558800 14400, .oldWest 1428256800 18000,
     .oldWest 1410109200 14400, .oldWest 1396807200 18000, .oldWest 1378659600 14400,
     .oldWest 1365357600 18000, .oldWest 1347210000 14400, .oldWest 1333908000 18000,
     .oldWest 1315155600 14400, .oldWest 1301853600 18000, .oldWest 1283706000 14400,
     .oldWest 1270404000 18000, .oldWest 1252256400 14400, .oldWest 1238954400 18000,
     .oldWest 1220806800 14400, .oldWest 1207504800 18000, .oldWest 1189357200 14400,
     .oldWest 1176055200 18000, .oldWest 1157302800 14400, .oldWest 1144605600 18000,
     .oldWest 1125853200 14400, .oldWest 1112551200 18000, .oldWest 1094403600 14400,
     .oldWest 1081101600 18000, .oldWest 1062954000 14400, .oldWest 1049652000 18000,
     .oldWest 1031504400 14400, .oldWest 1018202400 18000, .oldWest 1000054800 14400,
     .oldWest 986752800 18000, .oldWest 968000400 14400, .oldWest 955303200 18000,
     .oldWest 936550800 14400, .oldWest 923248800 18000, .oldWest 905101200 14400,
     .oldWest 891799200 18000, .oldWest 880218000 14400, .oldWest 765396000 18000,
     .oldWest 747248400 14400, .oldWest 733946400 18000, .oldWest 715798800 14400,
     .oldWest 702496800 18000, .oldWest 684349200 14400, .oldWest 671047200 18000,
     .oldWest 652899600 14400, .oldWest 639597600 18000, .oldWest 620845200 14400,
     .oldWest 608148000 18000, .oldWest 589395600 14400, .oldWest 576093600 18000,
     .oldWest 557946000 14400, .oldWest 544644000 18000, .oldWest 526496400 14400,
     .oldWest 513194400 18000, .oldWest 495046800 14400, .oldWest 481744800 18000,
     .oldWest 463597200 14400, .oldWest 447271200 18000, .oldWest 431542800 14400,
     .oldWest 415821600 18000, .oldWest 400093200 14400, .oldWest 384372000 18000,
     .oldWest 368643600 14400, .oldWest 352922400 18000, .oldWest 337194000 14400,
     .oldWest 321472800 18000, .oldWest 305744400 14400, .oldWest 289418400 18000,
     .oldWest 273690000 14400, .oldWest 257968800 18000, .oldWest 242240400 14400,
     .oldWest 226519200 18000, .oldWest 210790800 14400, .oldWest 195069600 18000,
     .oldWest 179341200 14400, .oldWest 163620000 18000, .oldWest 147891600 14400,
     .oldWest 131565600 18000, .oldWest 116442000 14400, .oldWest 100116000 18000,
     .oldWest 84387600 14400, .oldWest 68666400 18000, .oldWest 52938000 14400,
     .oldWest 37216800 18000, .oldWest 21488400 14400, .oldWest 5767200 18000,
     .west 9961200 14400, .west 25682400 18000, .west 41410800 14400, .west 57736800 18000,
     .west 73465200 14400, .west 89186400 18000, .west 104914800 14400, .west 120636000 18000,
     .west 126687600 14400, .west 152085600 18000, .west 162370800 14400, .west 183535200 18000,
     .west 199263600 14400, .west 215589600 18000, .west 230713200 14400, .west 247039200 18000,
     .west 262767600 14400, .west 278488800 18000, .west 294217200 14400, .west 309938400 18000,
     .west 325666800 14400, .west 341388000 18000, .west 357116400 14400, .west 372837600 18000,
     .west 388566000 14400, .west 404892000 18000, .west 420015600 14400, .west 436341600 18000,
     .west 452070000 14400, .west 467791200 18000, .west 483519600 14400, .west 499240800 18000,
     .west 514969200 14400, .west 530690400 18000, .west 544604400 14400, .west 562140000 18000,
     .west 576054000 14400, .west 594194400 18000, .west 607503600 14400, .west 625644000 18000,
     .west 638953200 14400, .west 657093600 18000, .west 671007600 14400, .west 688543200 18000,
     .west 702457200 14400, .west 719992800 18000, .west 733906800 14400, .west 752047200 18000,
     .west 765356400 14400, .west 783496800 18000, .west 796806000 14400, .west 814946400 18000,
     .west 828860400 14400, .west 846396000 18000, .west 860310000 14400, .west 877845600 18000,
     .west 891759600 14400, .west 909295200 18000, .west 923209200 14400, .west 941349600 18000,
     .west 954658800 14400, .west 972799200 18000, .west 986108400 14400, .west 1004248800 18000,
     .west 1018162800 14400, .west 1035698400 18000, .west 1049612400 14400,
     .west 1067148000 18000, .west 1081062000 14400, .west 1099202400 18000,
     .west 1112511600 14400, .west 1130652000 18000, .west 1143961200 14400,
     .west 1162101600 18000, .west 1173596400 14400, .west 1194156000 18000,
     .west 1205046000 14400, .west 1225605600 18000, .west 1236495600 14400,
     .west 1257055200 18000, .west 1268550000 14400, .west 1289109600 18000,
     .west 1299999600 14400, .west 1320559200 18000, .west 1331449200 14400,
     .west 1352008800 18000, .west 1362898800 14400, .west 1383458400 18000,
     .west 1394348400 14400, .west 1414908000 18000, .west 1425798000 14400,
     .west 1446357600 18000, .west 1457852400 14400, .west 1478412000 18000,
     .west 1489302000 14400, .west 1509861600 18000, .west 1520751600 14400,
     .west 1541311200 18000, .west 1552201200 14400, .west 1572760800 18000,
     .west 1583650800 14400, .west 1604210400 18000, .west 1615705200 14400,
     .west 1636264800 18000, .west 1647154800 14400, .west 1667714400 18000,
     .west 1678604400 14400, .west 1699164000 18000, .west 1710054000 14400,
     .west 1730613600 18000, .west 1741503600 14400, .west 1762063200 18000,
     .west 1772953200 14400, .west 1793512800 18000, .west 1805007600 14400,
     .west 1825567200 18000, .west 1836457200 14400, .west 1857016800 18000,
     .west 1867906800 14400, .west 1888466400 18000, .west 1899356400 14400,
     .west 1919916000 18000, .west 1930806000 14400, .west 1951365600 18000,
     .west 1962860400 14400, .west 1983420000 18000, .west 1994310000 14400,
     .west 2014869600 18000, .west 2025759600 14400, .west 2046319200 18000,
     .west 2057209200 14400, .west 2077768800 18000, .west 2088658800 14400,
     .west 2109218400 18000, .west 2120108400 14400, .west 2140668000 18000]

def stJohns : Zone where
  name := "America/St_Johns"
  initial := -12652
  changes :=
    [.oldWest 1664130548 9052, .oldWest 1650137348 12652, .oldWest 1632076148 9052,
     .oldWest 1615145348 12652, .oldWest 1598650148 9052, .oldWest 1590100148 12652,
     .oldWest 1567286948 9052, .oldWest 1551565748 12652, .oldWest 1535837348 9052,
     .oldWest 1520116148 12652, .oldWest 1503782948 9052, .oldWest 1488666548 12652,
     .oldWest 1472333348 9052, .oldWest 1457216948 12652, .oldWest 1440883748 9052,
     .oldWest 1425767348 12652, .oldWest 1409434148 9052, .oldWest 1394317748 12652,
     .oldWest 1377984548 9052, .oldWest 1362263348 12652, .oldWest 1346534948 9052,
     .oldWest 1330813748 12652, .oldWest 1314480548 9052, .oldWest 1299364148 12652,
     .oldWest 1283030948 9052, .oldWest 1267914548 12652, .oldWest 1251581348 9052,
     .oldWest 1236464948 12652, .oldWest 1220131748 9052, .oldWest 1205015348 12652,
     .oldWest 1188682148 9052, .oldWest 1172960948 12652, .oldWest 1156627748 9052,
     .oldWest 1141511348 12652, .oldWest 1125178148 9052, .oldWest 1110061748 12652,
     .oldWest 1096921748 12600, .oldWest 1093728600 9000, .oldWest 1078612200 12600,
     .oldWest 1061670600 9000, .oldWest 1048973400 12600, .oldWest 1030221000 9000,
     .oldWest 1017523800 12600, .oldWest 998771400 9000, .oldWest 986074200 12600,
     .oldWest 966717000 9000, .oldWest 954624600 12600, .oldWest 935267400 9000,
     .oldWest 922570200 12600, .oldWest 903817800 9000, .oldWest 891120600 12600,
     .oldWest 872368200 9000, .oldWest 765401400 12600, .oldWest 746044200 9000,
     .oldWest 733347000 12600, .oldWest 714594600 9000, .oldWest 701897400 12600,
     .oldWest 683145000 9000, .oldWest 670447800 12600, .oldWest 651695400 9000,
     .oldWest 638998200 12600, .oldWest 619641000 9000, .oldWest 606943800 12600,
     .oldWest 589401000 9000, .oldWest 576099000 12600, .oldWest 557951400 9000,
     .oldWest 544649400 12600, .oldWest 526501800 9000, .oldWest 513199800 12600,
     .oldWest 495052200 9000, .oldWest 481750200 12600, .oldWest 463602600 9000,
     .oldWest 450300600 12600, .oldWest 431548200 9000, .oldWest 418246200 12600,
     .oldWest 400098600 9000, .oldWest 386796600 12600, .oldWest 368649000 9000,
     .oldWest 355347000 12600, .oldWest 337199400 9000, .oldWest 323897400 12600,
     .oldWest 305749800 9000, .oldWest 289423800 12600, .oldWest 273695400 9000,
     .oldWest 257974200 12600, .oldWest 242245800 9000, .oldWest 226524600 12600,
     .oldWest 210796200 9000, .oldWest 195075000 12600, .oldWest 179346600 9000,
     .oldWest 163625400 12600, .oldWest 147897000 9000, .oldWest 131571000 12600,
     .oldWest 116447400 9000, .oldWest 100121400 12600, .oldWest 84393000 9000,
     .oldWest 68671800 12600, .oldWest 52943400 9000, .oldWest 37222200 12600,
     .oldWest 21493800 9000, .oldWest 5772600 12600, .west 9955800 9000, .west 25677000 12600,
     .west 41405400 9000, .west 57731400 12600, .west 73459800 9000, .west 89181000 12600,
     .west 104909400 9000, .west 120630600 12600, .west 136359000 9000, .west 152080200 12600,
     .west 167808600 9000, .west 183529800 12600, .west 199258200 9000, .west 215584200 12600,
     .west 230707800 9000, .west 247033800 12600, .west 262762200 9000, .west 278483400 12600,
     .west 294211800 9000, .west 309933000 12600, .west 325661400 9000, .west 341382600 12600,
     .west 357111000 9000, .west 372832200 12600, .west 388560600 9000, .west 404886600 12600,
     .west 420010200 9000, .west 436336200 12600, .west 452064600 9000, .west 467785800 12600,
     .west 483514200 9000, .west 499235400 12600, .west 514963800 9000, .west 530685000 12600,
     .west 544591860 9000, .west 562127460 12600, .west 576041460 5400, .west 594178260 12600,
     .west 607491060 9000, .west 625631460 12600, .west 638940660 9000, .west 657081060 12600,
     .west 670995060 9000, .west 688530660 12600, .west 702444660 9000, .west 719980260 12600,
     .west 733894260 9000, .west 752034660 12600, .west 765343860 9000, .west 783484260 12600,
     .west 796793460 9000, .west 814933860 12600, .west 828847860 9000, .west 846383460 12600,
     .west 860297460 9000, .west 877833060 12600, .west 891747060 9000, .west 909282660 12600,
     .west 923196660 9000, .west 941337060 12600, .west 954646260 9000, .west 972786660 12600,
     .west 986095860 9000, .west 1004236260 12600, .west 1018150260 9000, .west 1035685860 12600,
     .west 1049599860 9000, .west 1067135460 12600, .west 1081049460 9000,
     .west 1099189860 12600, .west 1112499060 9000, .west 1130639460 12600,
     .west 1143948660 9000, .west 1162089060 12600, .west 1173583860 9000,
     .west 1194143460 12600, .west 1205033460 9000, .west 1225593060 12600,
     .west 1236483060 9000, .west 1257042660 12600, .west 1268537460 9000,
     .west 1289097060 12600, .west 1299987060 9000, .west 1320553800 12600,
     .west 1331443800 9000, .west 1352003400 12600, .west 1362893400 9000,
     .west 1383453000 12600, .west 1394343000 9000, .west 1414902600 12600,
     .west 1425792600 9000, .west 1446352200 12600, .west 1457847000 9000,
     .west 1478406600 12600, .west 1489296600 9000, .west 1509856200 12600,
     .west 1520746200 9000, .west 1541305800 12600, .west 1552195800 9000,
     .west 1572755400 12600, .west 1583645400 9000, .west 1604205000 12600,
     .west 1615699800 9000, .west 1636259400 12600, .west 1647149400 9000,
     .west 1667709000 12600, .west 1678599000 9000, .west 1699158600 12600,
     .west 1710048600 9000, .west 1730608200 12600, .west 1741498200 9000,
     .west 1762057800 12600, .west 1772947800 9000, .west 1793507400 12600,
     .west 1805002200 9000, .west 1825561800 12600, .west 1836451800 9000,
     .west 1857011400 12600, .west 1867901400 9000, .west 1888461000 12600,
     .west 1899351000 9000, .west 1919910600 12600, .west 1930800600 9000,
     .west 1951360200 12600, .west 1962855000 9000, .west 1983414600 12600,
     .west 1994304600 9000, .west 2014864200 12600, .west 2025754200 9000,
     .west 2046313800 12600, .west 2057203800 9000, .west 2077763400 12600,
     .west 2088653400 9000, .west 2109213000 12600, .west 2120103000 9000,
     .west 2140662600 12600]

def berlin : Zone where
  name := "Europe/Berlin"
  initial := 3208
  changes :=
    [.oldEast 2422054408 3600, .oldEast 1693706400 7200, .oldEast 1680483600 3600,
     .oldEast 1663455600 7200, .oldEast 1650150000 3600, .oldEast 1632006000 7200,
     .oldEast 1618700400 3600, .oldEast 938905200 7200, .oldEast 857257200 3600,
     .oldEast 844556400 7200, .oldEast 828226800 3600, .oldEast 812502000 7200,
     .oldEast 796777200 3600, .oldEast 781052400 7200, .oldEast 776563200 10800,
     .oldEast 765936000 7200, .oldEast 761180400 3600, .oldEast 748479600 7200,
     .oldEast 733273200 3600, .oldEast 717631200 7200, .oldEast 714610800 10800,
     .oldEast 710380800 7200, .oldEast 701910000 3600, .oldEast 684975600 7200,
     .oldEast 670460400 3600, .oldEast 654130800 7200, .oldEast 639010800 3600,
     .east 323830800 7200, .east 338950800 3600, .east 354675600 7200, .east 370400400 3600,
     .east 386125200 7200, .east 401850000 3600, .east 417574800 7200, .east 433299600 3600,
     .east 449024400 7200, .east 465354000 3600, .east 481078800 7200, .east 496803600 3600,
     .east 512528400 7200, .east 528253200 3600, .east 543978000 7200, .east 559702800 3600,
     .east 575427600 7200, .east 591152400 3600, .east 606877200 7200, .east 622602000 3600,
     .east 638326800 7200, .east 654656400 3600, .east 670381200 7200, .east 686106000 3600,
     .east 701830800 7200, .east 717555600 3600, .east 733280400 7200, .east 749005200 3600,
     .east 764730000 7200, .east 780454800 3600, .east 796179600 7200, .east 811904400 3600,
     .east 828234000 7200, .east 846378000 3600, .east 859683600 7200, .east 877827600 3600,
     .east 891133200 7200, .east 909277200 3600, .east 922582800 7200, .east 941331600 3600,
     .east 954032400 7200, .east 972781200 3600, .east 985482000 7200, .east 1004230800 3600,
     .east 1017536400 7200, .east 1035680400 3600, .east 1048986000 7200, .east 1067130000 3600,
     .east 1080435600 7200, .east 1099184400 3600, .east 1111885200 7200, .east 1130634000 3600,
     .east 1143334800 7200, .east 1162083600 3600, .east 1174784400 7200, .east 1193533200 3600,
     .east 1206838800 7200, .east 1224982800 3600, .east 1238288400 7200, .east 1256432400 3600,
     .east 1269738000 7200, .east 1288486800 3600, .east 1301187600 7200, .east 1319936400 3600,
     .east 1332637200 7200, .east 1351386000 3600, .east 1364691600 7200, .east 1382835600 3600,
     .east 1396141200 7200, .east 1414285200 3600, .east 1427590800 7200, .east 1445734800 3600,
     .east 1459040400 7200, .east 1477789200 3600, .east 1490490000 7200, .east 1509238800 3600,
     .east 1521939600 7200, .east 1540688400 3600, .east 1553994000 7200, .east 1572138000 3600,
     .east 1585443600 7200, .east 1603587600 3600, .east 1616893200 7200, .east 1635642000 3600,
     .east 1648342800 7200, .east 1667091600 3600, .east 1679792400 7200, .east 1698541200 3600,
     .east 1711846800 7200, .east 1729990800 3600, .east 1743296400 7200, .east 1761440400 3600,
     .east 1774746000 7200, .east 1792890000 3600, .east 1806195600 7200, .east 1824944400 3600,
     .east 1837645200 7200, .east 1856394000 3600, .east 1869094800 7200, .east 1887843600 3600,
     .east 1901149200 7200, .east 1919293200 3600, .east 1932598800 7200, .east 1950742800 3600,
     .east 1964048400 7200, .east 1982797200 3600, .east 1995498000 7200, .east 2014246800 3600,
     .east 2026947600 7200, .east 2045696400 3600, .east 2058397200 7200, .east 2077146000 3600,
     .east 2090451600 7200, .east 2108595600 3600, .east 2121901200 7200, .east 2140045200 3600]

def london : Zone where
  name := "Europe/London"
  initial := -75
  changes :=
    [.oldEast 3852662325 0, .oldEast 1691964000 3600, .oldEast 1680472800 0,
     .oldEast 1664143200 3600, .oldEast 1650146400 0, .oldEast 1633903200 3600,
     .oldEast 1617487200 0, .oldEast 1601848800 3600, .oldEast 1586037600 0,
     .oldEast 1570399200 3600, .oldEast 1552168800 0, .oldEast 1538344800 3600,
     .oldEast 1522533600 0, .oldEast 1507500000 3600, .oldEast 1490565600 0,
     .oldEast 1473631200 3600, .oldEast 1460930400 0, .oldEast 1442786400 3600,
     .oldEast 1428876000 0, .oldEast 1410732000 3600, .oldEast 1396216800 0,
     .oldEast 1379282400 3600, .oldEast 1364767200 0, .oldEast 1348437600 3600,
     .oldEast 1333317600 0, .oldEast 1315778400 3600, .oldEast 1301263200 0,
     .oldEast 1284328800 3600, .oldEast 1269813600 0, .oldEast 1253484000 3600,
     .oldEast 1238364000 0, .oldEast 1221429600 3600, .oldEast 1206914400 0,
     .oldEast 1189980000 3600, .oldEast 1175464800 0, .oldEast 1159135200 3600,
     .oldEast 1143410400 0, .oldEast 1126476000 3600, .oldEast 1111960800 0,
     .oldEast 1095631200 3600, .oldEast 1080511200 0, .oldEast 1063576800 3600,
     .oldEast 1049061600 0, .oldEast 1032127200 3600, .oldEast 1017612000 0,
     .oldEast 1001282400 3600, .oldEast 986162400 0, .oldEast 969228000 3600,
     .oldEast 950479200 0, .oldEast 942012000 3600, .oldEast 904518000 7200,
     .oldEast 896050800 3600, .oldEast 875487600 7200, .oldEast 864601200 3600,
     .oldEast 844038000 7200, .oldEast 832546800 3600, .oldEast 812588400 7200,
     .oldEast 798073200 3600, .oldEast 781052400 7200, .oldEast 772066800 3600,
     .oldEast 764805600 0, .oldEast 748476000 3600, .oldEast 733356000 0,
     .oldEast 719445600 3600, .oldEast 717030000 7200, .oldEast 706748400 3600,
     .oldEast 699487200 0, .oldEast 687996000 3600, .oldEast 668037600 0,
     .oldEast 654732000 3600, .oldEast 636588000 0, .oldEast 622072800 3600,
     .oldEast 605743200 0, .oldEast 590623200 3600, .oldEast 574293600 0,
     .oldEast 558568800 3600, .oldEast 542239200 0, .oldEast 527119200 3600,
     .oldEast 512604000 0, .oldEast 496274400 3600, .oldEast 481154400 0,
     .oldEast 464220000 3600, .oldEast 449704800 0, .oldEast 432165600 3600,
     .oldEast 417650400 0, .oldEast 401320800 3600, .oldEast 386200800 0,
     .oldEast 369266400 3600, .oldEast 354751200 0, .oldEast 337816800 3600,
     .oldEast 323301600 0, .oldEast 306972000 3600, .oldEast 291852000 0,
     .oldEast 276732000 3600, .oldEast 257983200 0, .oldEast 245282400 3600,
     .oldEast 226533600 0, .oldEast 213228000 3600, .oldEast 195084000 0,
     .oldEast 182383200 3600, .oldEast 163634400 0, .oldEast 150933600 3600,
     .oldEast 132184800 0, .oldEast 119484000 3600, .oldEast 100735200 0, .oldEast 88034400 3600,
     .oldEast 68680800 0, .oldEast 59004000 3600, .east 57722400 0, .east 69818400 3600,
     .east 89172000 0, .east 101268000 3600, .east 120621600 0, .east 132717600 3600,
     .east 152071200 0, .east 164167200 3600, .east 183520800 0, .east 196221600 3600,
     .east 214970400 0, .east 227671200 3600, .east 246420000 0, .east 259120800 3600,
     .east 278474400 0, .east 290570400 3600, .east 309924000 0, .east 322020000 3600,
     .east 341373600 0, .east 354675600 3600, .east 372819600 0, .east 386125200 3600,
     .east 404269200 0, .east 417574800 3600, .east 435718800 0, .east 449024400 3600,
     .east 467773200 0, .east 481078800 3600, .east 499222800 0, .east 512528400 3600,
     .east 530672400 0, .east 543978000 3600, .east 562122000 0, .east 575427600 3600,
     .east 593571600 0, .east 606877200 3600, .east 625626000 0, .east 638326800 3600,
     .east 657075600 0, .east 670381200 3600, .east 688525200 0, .east 701830800 3600,
     .east 719974800 0, .east 733280400 3600, .east 751424400 0, .east 764730000 3600,
     .east 782874000 0, .east 796179600 3600, .east 814323600 0, .east 828234000 3600,
     .east 846378000 0, .east 859683600 3600, .east 877827600 0, .east 891133200 3600,
     .east 909277200 0, .east 922582800 3600, .east 941331600 0, .east 954032400 3600,
     .east 972781200 0, .east 985482000 3600, .east 1004230800 0, .east 1017536400 3600,
     .east 1035680400 0, .east 1048986000 3600, .east 1067130000 0, .east 1080435600 3600,
     .east 1099184400 0, .east 1111885200 3600, .east 1130634000 0, .east 1143334800 3600,
     .east 1162083600 0, .east 1174784400 3600, .east 1193533200 0, .east 1206838800 3600,
     .east 1224982800 0, .east 1238288400 3600, .east 1256432400 0, .east 1269738000 3600,
     .east 1288486800 0, .east 1301187600 3600, .east 1319936400 0, .east 1332637200 3600,
     .east 1351386000 0, .east 1364691600 3600, .east 1382835600 0, .east 1396141200 3600,
     .east 1414285200 0, .east 1427590800 3600, .east 1445734800 0, .east 1459040400 3600,
     .east 1477789200 0, .east 1490490000 3600, .east 1509238800 0, .east 1521939600 3600,
     .east 1540688400 0, .east 1553994000 3600, .east 1572138000 0, .east 1585443600 3600,
     .east 1603587600 0, .east 1616893200 3600, .east 1635642000 0, .east 1648342800 3600,
     .east 1667091600 0, .east 1679792400 3600, .east 1698541200 0, .east 1711846800 3600,
     .east 1729990800 0, .east 1743296400 3600, .east 1761440400 0, .east 1774746000 3600,
     .east 1792890000 0, .east 1806195600 3600, .east 1824944400 0, .east 1837645200 3600,
     .east 1856394000 0, .east 1869094800 3600, .east 1887843600 0, .east 1901149200 3600,
     .east 1919293200 0, .east 1932598800 3600, .east 1950742800 0, .east 1964048400 3600,
     .east 1982797200 0, .east 1995498000 3600, .east 2014246800 0, .east 2026947600 3600,
     .east 2045696400 0, .east 2058397200 3600, .east 2077146000 0, .east 2090451600 3600,
     .east 2108595600 0, .east 2121901200 3600, .east 2140045200 0]

def lordHowe : Zone where
  name := "Australia/Lord_Howe"
  initial := 38180
  changes :=
    [.oldEast 2364114980 36000, .east 352216800 37800, .east 372785400 41400,
     .east 384273000 37800, .east 404839800 41400, .east 415722600 37800, .east 436289400 41400,
     .east 447172200 37800, .east 467739000 41400, .east 478621800 37800, .east 499188600 39600,
     .east 511282800 37800, .east 530033400 39600, .east 542732400 37800, .east 562087800 39600,
     .east 574786800 37800, .east 594142200 39600, .east 606236400 37800, .east 625591800 39600,
     .east 636476400 37800, .east 657041400 39600, .east 667926000 37800, .east 688491000 39600,
     .east 699375600 37800, .east 719940600 39600, .east 731430000 37800, .east 751995000 39600,
     .east 762879600 37800, .east 783444600 39600, .east 794329200 37800, .east 814894200 39600,
     .east 828198000 37800, .east 846343800 39600, .east 859647600 37800, .east 877793400 39600,
     .east 891097200 37800, .east 909243000 39600, .east 922546800 37800, .east 941297400 39600,
     .east 953996400 37800, .east 967303800 39600, .east 985446000 37800, .east 1004196600 39600,
     .east 1017500400 37800, .east 1035646200 39600, .east 1048950000 37800,
     .east 1067095800 39600, .east 1080399600 37800, .east 1099150200 39600,
     .east 1111849200 37800, .east 1130599800 39600, .east 1143903600 37800,
     .east 1162049400 39600, .east 1174748400 37800, .east 1193499000 39600,
     .east 1207407600 37800, .east 1223134200 39600, .east 1238857200 37800,
     .east 1254583800 39600, .east 1270306800 37800, .east 1286033400 39600,
     .east 1301756400 37800, .east 1317483000 39600, .east 1333206000 37800,
     .east 1349537400 39600, .east 1365260400 37800, .east 1380987000 39600,
     .east 1396710000 37800, .east 1412436600 39600, .east 1428159600 37800,
     .east 1443886200 39600, .east 1459609200 37800, .east 1475335800 39600,
     .east 1491058800 37800, .east 1506785400 39600, .east 1522508400 37800,
     .east 1538839800 39600, .east 1554562800 37800, .east 1570289400 39600,
     .east 1586012400 37800, .east 1601739000 39600, .east 1617462000 37800,
     .east 1633188600 39600, .east 1648911600 37800, .east 1664638200 39600,
     .east 1680361200 37800, .east 1696087800 39600, .east 1712415600 37800,
     .east 1728142200 39600, .east 1743865200 37800, .east 1759591800 39600,
     .east 1775314800 37800, .east 1791041400 39600, .east 1806764400 37800,
     .east 1822491000 39600, .east 1838214000 37800, .east 1853940600 39600,
     .east 1869663600 37800, .east 1885995000 39600, .east 1901718000 37800,
     .east 1917444600 39600, .east 1933167600 37800, .east 1948894200 39600,
     .east 1964617200 37800, .east 1980343800 39600, .east 1996066800 37800,
     .east 2011793400 39600, .east 2027516400 37800, .east 2043243000 39600,
     .east 2058966000 37800, .east 2075297400 39600, .east 2091020400 37800,
     .east 2106747000 39600, .east 2122470000 37800, .east 2138196600 39600]

def saoPaulo : Zone where
  name := "America/Sao_Paulo"
  initial := -11188
  changes :=
    [.oldWest 1767214412 10800, .oldWest 1206957600 7200, .oldWest 1191362400 10800,
     .oldWest 1175374800 7200, .oldWest 1159826400 10800, .oldWest 633819600 7200,
     .oldWest 622069200 10800, .oldWest 602283600 7200, .oldWest 591832800 10800,
     .oldWest 570747600 7200, .oldWest 560210400 10800, .oldWest 539125200 7200,
     .oldWest 531352800 10800, .oldWest 195426000 7200, .oldWest 184197600 10800,
     .oldWest 155163600 7200, .oldWest 150069600 10800, .oldWest 128898000 7200,
     .oldWest 121125600 10800, .oldWest 99954000 7200, .oldWest 89589600 10800,
     .oldWest 68418000 7200, .oldWest 57967200 10800, .west 499748400 7200,
     .west 511236000 10800, .west 530593200 7200, .west 540266400 10800, .west 562129200 7200,
     .west 571197600 10800, .west 592974000 7200, .west 602042400 10800, .west 624423600 7200,
     .west 634701600 10800, .west 656478000 7200, .west 666756000 10800, .west 687927600 7200,
     .west 697600800 10800, .west 719982000 7200, .west 728445600 10800, .west 750826800 7200,
     .west 761709600 10800, .west 782276400 7200, .west 793159200 10800, .west 813726000 7200,
     .west 824004000 10800, .west 844570800 7200, .west 856058400 10800, .west 876106800 7200,
     .west 888717600 10800, .west 908074800 7200, .west 919562400 10800, .west 938919600 7200,
     .west 951616800 10800, .west 970974000 7200, .west 982461600 10800, .west 1003028400 7200,
     .west 1013911200 10800, .west 1036292400 7200, .west 1045360800 10800,
     .west 1066532400 7200, .west 1076810400 10800, .west 1099364400 7200,
     .west 1108864800 10800, .west 1129431600 7200, .west 1140314400 10800,
     .west 1162695600 7200, .west 1172368800 10800, .west 1192330800 7200,
     .west 1203213600 10800, .west 1224385200 7200, .west 1234663200 10800,
     .west 1255834800 7200, .west 1266717600 10800, .west 1287284400 7200,
     .west 1298167200 10800, .west 1318734000 7200, .west 1330221600 10800,
     .west 1350788400 7200, .west 1361066400 10800, .west 1382238000 7200,
     .west 1392516000 10800, .west 1413687600 7200, .west 1424570400 10800,
     .west 1445137200 7200, .west 1456020000 10800, .west 1476586800 7200,
     .west 1487469600 10800, .west 1508036400 7200, .west 1518919200 10800,
     .west 1541300400 7200, .west 1550368800 10800]

def cairo : Zone where
  name := "Africa/Cairo"
  initial := 7509
  changes :=
    [.oldEast 2185409109 7200, .oldEast 929844000 10800, .oldEast 923108400 7200,
     .oldEast 906170400 10800, .oldEast 892868400 7200, .oldEast 875844000 10800,
     .oldEast 857790000 7200, .oldEast 844308000 10800, .oldEast 825822000 7200,
     .oldEast 812685600 10800, .oldEast 794199600 7200, .oldEast 779853600 10800,
     .oldEast 762663600 7200, .oldEast 399088800 10800, .oldEast 386650800 7200,
     .oldEast 368330400 10800, .oldEast 355114800 7200, .oldEast 336790800 10800,
     .oldEast 323654400 7200, .oldEast 305168400 10800, .oldEast 292032000 7200,
     .oldEast 273632400 10800, .oldEast 260496000 7200, .oldEast 242096400 10800,
     .oldEast 228960000 7200, .oldEast 210560400 10800, .oldEast 197424000 7200,
     .oldEast 178938000 10800, .oldEast 165801600 7200, .oldEast 147402000 10800,
     .oldEast 134265600 7200, .oldEast 115866000 10800, .oldEast 102643200 7200,
     .oldEast 84330000 10800, .oldEast 71107200 7200, .oldEast 52707600 10800,
     .oldEast 39484800 7200, .oldEast 21171600 10800, .oldEast 7948800 7200,
     .east 10364400 10800, .east 23587200 7200, .east 41900400 10800, .east 55123200 7200,
     .east 73522800 10800, .east 86745600 7200, .east 105058800 10800, .east 118281600 7200,
     .east 136594800 10800, .east 149817600 7200, .east 168130800 10800, .east 181353600 7200,
     .east 199753200 10800, .east 212976000 7200, .east 231289200 10800, .east 244512000 7200,
     .east 262825200 10800, .east 276048000 7200, .east 294361200 10800, .east 307584000 7200,
     .east 325983600 10800, .east 339206400 7200, .east 357519600 10800, .east 370742400 7200,
     .east 396399600 10800, .east 402278400 7200, .east 426812400 10800, .east 433814400 7200,
     .east 452214000 10800, .east 465436800 7200, .east 483750000 10800, .east 496972800 7200,
     .east 515286000 10800, .east 528508800 7200, .east 546822000 10800, .east 560044800 7200,
     .east 578444400 10800, .east 591667200 7200, .east 610412400 10800, .east 623203200 7200,
     .east 641516400 10800, .east 654739200 7200, .east 673052400 10800, .east 686275200 7200,
     .east 704674800 10800, .east 717897600 7200, .east 736210800 10800, .east 749433600 7200,
     .east 767746800 10800, .east 780969600 7200, .east 799020000 10800, .east 812322000 7200,
     .east 830469600 10800, .east 843771600 7200, .east 861919200 10800, .east 875221200 7200,
     .east 893368800 10800, .east 906670800 7200, .east 925423200 10800, .east 938725200 7200,
     .east 956872800 10800, .east 970174800 7200, .east 988322400 10800, .east 1001624400 7200,
     .east 1019772000 10800, .east 1033074000 7200, .east 1051221600 10800,
     .east 1064523600 7200, .east 1083276000 10800, .east 1096578000 7200,
     .east 1114725600 10800, .east 1128027600 7200, .east 1146175200 10800,
     .east 1158872400 7200, .east 1177624800 10800, .east 1189112400 7200,
     .east 1209074400 10800, .east 1219957200 7200, .east 1240524000 10800,
     .east 1250802000 7200, .east 1272578400 10800, .east 1281474000 7200,
     .east 1284069600 10800, .east 1285880400 7200, .east 1400191200 10800,
     .east 1403816400 7200, .east 1406844000 10800, .east 1411678800 7200,
     .east 1682632800 10800, .east 1698354000 7200, .east 1714082400 10800,
     .east 1730408400 7200, .east 1745532000 10800, .east 1761858000 7200,
     .east 1776981600 10800, .east 1793307600 7200, .east 1809036000 10800,
     .east 1824757200 7200, .east 1840485600 10800, .east 1856206800 7200,
     .east 1871935200 10800, .east 1887656400 7200, .east 1903384800 10800,
     .east 1919710800 7200, .east 1934834400 10800, .east 1951160400 7200,
     .east 1966888800 10800, .east 1982610000 7200, .east 1998338400 10800,
     .east 2014059600 7200, .east 2029788000 10800, .east 2045509200 7200,
     .east 2061237600 10800, .east 2076958800 7200, .east 2092687200 10800,
     .east 2109013200 7200, .east 2124136800 10800, .east 2140462800 7200]

def havana : Zone where
  name := "America/Havana"
  initial := -19768
  changes :=
    [.oldWest 2524501832 19776, .oldWest 1402813824 18000, .oldWest 1311534000 14400,
     .oldWest 1300996800 18000, .oldWest 933534000 14400, .oldWest 925675200 18000,
     .oldWest 902084400 14400, .oldWest 893620800 18000, .oldWest 870030000 14400,
     .oldWest 862171200 18000, .oldWest 775681200 14400, .oldWest 767822400 18000,
     .oldWest 744231600 14400, .oldWest 736372800 18000, .oldWest 144702000 14400,
     .oldWest 134251200 18000, .oldWest 113425200 14400, .oldWest 102542400 18000,
     .oldWest 86295600 14400, .oldWest 72907200 18000, .oldWest 54154800 14400,
     .oldWest 41457600 18000, .oldWest 21495600 14400, .oldWest 5774400 18000,
     .west 9954000 14400, .west 25675200 18000, .west 41403600 14400, .west 57729600 18000,
     .west 73458000 14400, .west 87364800 18000, .west 104907600 14400, .west 118900800 18000,
     .west 136357200 14400, .west 150436800 18000, .west 167806800 14400, .west 183528000 18000,
     .west 199256400 14400, .west 215582400 18000, .west 230706000 14400, .west 247032000 18000,
     .west 263365200 14400, .west 276667200 18000, .west 290581200 14400, .west 308721600 18000,
     .west 322030800 14400, .west 340171200 18000, .west 358318800 14400, .west 371620800 18000,
     .west 389768400 14400, .west 403070400 18000, .west 421218000 14400, .west 434520000 18000,
     .west 452667600 14400, .west 466574400 18000, .west 484117200 14400, .west 498024000 18000,
     .west 511333200 14400, .west 529473600 18000, .west 542782800 14400, .west 560923200 18000,
     .west 574837200 14400, .west 592372800 18000, .west 606286800 14400, .west 623822400 18000,
     .west 638946000 14400, .west 655876800 18000, .west 671000400 14400, .west 687330000 18000,
     .west 702450000 14400, .west 718779600 18000, .west 733899600 14400, .west 750229200 18000,
     .west 765349200 14400, .west 781678800 18000, .west 796798800 14400, .west 813128400 18000,
     .west 828853200 14400, .west 844578000 18000, .west 860302800 14400, .west 876632400 18000,
     .west 891147600 14400, .west 909291600 18000, .west 922597200 14400, .west 941346000 18000,
     .west 954651600 14400, .west 972795600 18000, .west 986101200 14400, .west 1004245200 18000,
     .west 1018155600 14400, .west 1035694800 18000, .west 1049605200 14400,
     .west 1067144400 18000, .west 1080450000 14400, .west 1162098000 18000,
     .west 1173589200 14400, .west 1193547600 18000, .west 1205643600 14400,
     .west 1224997200 18000, .west 1236488400 14400, .west 1256446800 18000,
     .west 1268542800 14400, .west 1288501200 18000, .west 1300597200 14400,
     .west 1321160400 18000, .west 1333256400 14400, .west 1352005200 18000,
     .west 1362891600 14400, .west 1383454800 18000, .west 1394341200 14400,
     .west 1414904400 18000, .west 1425790800 14400, .west 1446354000 18000,
     .west 1457845200 14400, .west 1478408400 18000, .west 1489294800 14400,
     .west 1509858000 18000, .west 1520744400 14400, .west 1541307600 18000,
     .west 1552194000 14400, .west 1572757200 18000, .west 1583643600 14400,
     .west 1604206800 18000, .west 1615698000 14400, .west 1636261200 18000,
     .west 1647147600 14400, .west 1667710800 18000, .west 1678597200 14400,
     .west 1699160400 18000, .west 1710046800 14400, .west 1730610000 18000,
     .west 1741496400 14400, .west 1762059600 18000, .west 1772946000 14400,
     .west 1793509200 18000, .west 1805000400 14400, .west 1825563600 18000,
     .west 1836450000 14400, .west 1857013200 18000, .west 1867899600 14400,
     .west 1888462800 18000, .west 1899349200 14400, .west 1919912400 18000,
     .west 1930798800 14400, .west 1951362000 18000, .west 1962853200 14400,
     .west 1983416400 18000, .west 1994302800 14400, .west 2014866000 18000,
     .west 2025752400 14400, .west 2046315600 18000, .west 2057202000 14400,
     .west 2077765200 18000, .west 2088651600 14400, .west 2109214800 18000,
     .west 2120101200 14400, .west 2140664400 18000]

def apia : Zone where
  name := "Pacific/Apia"
  initial := 45184
  changes :=
    [.oldWest 2445424384 41216, .oldWest 1861878784 41400, .oldWest 631110600 39600,
     .west 1285498800 36000, .west 1301752800 39600, .west 1316872800 36000,
     .east 1325239200 50400, .east 1333202400 46800, .east 1348927200 50400,
     .east 1365256800 46800, .east 1380376800 50400, .east 1396706400 46800,
     .east 1411826400 50400, .east 1428156000 46800, .east 1443276000 50400,
     .east 1459605600 46800, .east 1474725600 50400, .east 1491055200 46800,
     .east 1506175200 50400, .east 1522504800 46800, .east 1538229600 50400,
     .east 1554559200 46800, .east 1569679200 50400, .east 1586008800 46800,
     .east 1601128800 50400, .east 1617458400 46800]

def kiritimati : Zone where
  name := "Pacific/Kiritimati"
  initial := -37760
  changes :=
    [.oldWest 2177415040 38400, .west 307622400 36000, .east 788868000 50400]

def gmtPlus5 : Zone where
  name := "Etc/GMT+5"
  initial := -18000
  changes := []

def usPacific : Zone where
  name := "US/Pacific"
  initial := -28378
  changes :=
    [.oldWest 2717640000 28800, .oldWest 1633269600 25200, .oldWest 1615129200 28800,
     .oldWest 1601820000 25200, .oldWest 1583679600 28800, .oldWest 880207200 25200,
     .oldWest 765385200 28800, .oldWest 687967140 25200, .oldWest 662655600 28800,
     .oldWest 620838000 25200, .oldWest 608137200 28800, .oldWest 589388400 25200,
     .oldWest 576082800 28800, .oldWest 557938800 25200, .oldWest 544633200 28800,
     .oldWest 526489200 25200, .oldWest 513183600 28800, .oldWest 495039600 25200,
     .oldWest 481734000 28800, .oldWest 463590000 25200, .oldWest 450284400 28800,
     .oldWest 431535600 25200, .oldWest 418230000 28800, .oldWest 400086000 25200,
     .oldWest 386780400 28800, .oldWest 368636400 25200, .oldWest 355330800 28800,
     .oldWest 337186800 25200, .oldWest 323881200 28800, .oldWest 305737200 25200,
     .oldWest 292431600 28800, .oldWest 273682800 25200, .oldWest 260982000 28800,
     .oldWest 242233200 25200, .oldWest 226508400 28800, .oldWest 210783600 25200,
     .oldWest 195058800 28800, .oldWest 179334000 25200, .oldWest 163609200 28800,
     .oldWest 147884400 25200, .oldWest 131554800 28800, .oldWest 116434800 25200,
     .oldWest 100105200 28800, .oldWest 84376800 25200, .oldWest 68655600 28800,
     .oldWest 52927200 25200, .oldWest 37206000 28800, .oldWest 21477600 25200,
     .oldWest 5756400 28800, .west 9972000 25200, .west 25693200 28800, .west 41421600 25200,
     .west 57747600 28800, .west 73476000 25200, .west 89197200 28800, .west 104925600 25200,
     .west 120646800 28800, .west 126698400 25200, .west 152096400 28800, .west 162381600 25200,
     .west 183546000 28800, .west 199274400 25200, .west 215600400 28800, .west 230724000 25200,
     .west 247050000 28800, .west 262778400 25200, .west 278499600 28800, .west 294228000 25200,
     .west 309949200 28800, .west 325677600 25200, .west 341398800 28800, .west 357127200 25200,
     .west 372848400 28800, .west 388576800 25200, .west 404902800 28800, .west 420026400 25200,
     .west 436352400 28800, .west 452080800 25200, .west 467802000 28800, .west 483530400 25200,
     .west 499251600 28800, .west 514980000 25200, .west 530701200 28800, .west 544615200 25200,
     .west 562150800 28800, .west 576064800 25200, .west 594205200 28800, .west 607514400 25200,
     .west 625654800 28800, .west 638964000 25200, .west 657104400 28800, .west 671018400 25200,
     .west 688554000 28800, .west 702468000 25200, .west 720003600 28800, .west 733917600 25200,
     .west 752058000 28800, .west 765367200 25200, .west 783507600 28800, .west 796816800 25200,
     .west 814957200 28800, .west 828871200 25200, .west 846406800 28800, .west 860320800 25200,
     .west 877856400 28800, .west 891770400 25200, .west 909306000 28800, .west 923220000 25200,
     .west 941360400 28800, .west 954669600 25200, .west 972810000 28800, .west 986119200 25200,
     .west 1004259600 28800, .west 1018173600 25200, .west 1035709200 28800,
     .west 1049623200 25200, .west 1067158800 28800, .west 1081072800 25200,
     .west 1099213200 28800, .west 1112522400 25200, .west 1130662800 28800,
     .west 1143972000 25200, .west 1162112400 28800, .west 1173607200 25200,
     .west 1194166800 28800, .west 1205056800 25200, .west 1225616400 28800,
     .west 1236506400 25200, .west 1257066000 28800, .west 1268560800 25200,
     .west 1289120400 28800, .west 1300010400 25200, .west 1320570000 28800,
     .west 1331460000 25200, .west 1352019600 28800, .west 1362909600 25200,
     .west 1383469200 28800, .west 1394359200 25200, .west 1414918800 28800,
     .west 1425808800 25200, .west 1446368400 28800, .west 1457863200 25200,
     .west 1478422800 28800, .west 1489312800 25200, .west 1509872400 28800,
     .west 1520762400 25200, .west 1541322000 28800, .west 1552212000 25200,
     .west 1572771600 28800, .west 1583661600 25200, .west 1604221200 28800,
     .west 1615716000 25200, .west 1636275600 28800, .west 1647165600 25200,
     .west 1667725200 28800, .west 1678615200 25200, .west 1699174800 28800,
     .west 1710064800 25200, .west 1730624400 28800, .west 1741514400 25200,
     .west 1762074000 28800, .west 1772964000 25200, .west 1793523600 28800,
     .west 1805018400 25200, .west 1825578000 28800, .west 1836468000 25200,
     .west 1857027600 28800, .west 1867917600 25200, .west 1888477200 28800,
     .west 1899367200 25200, .west 1919926800 28800, .west 1930816800 25200,
     .west 1951376400 28800, .west 1962871200 25200, .west 1983430800 28800,
     .west 1994320800 25200, .west 2014880400 28800, .west 2025770400 25200,
     .west 2046330000 28800, .west 2057220000 25200, .west 2077779600 28800,
     .west 2088669600 25200, .west 2109229200 28800, .west 2120119200 25200,
     .west 2140678800 28800]

def marquesas : Zone where
  name := "Pacific/Marquesas"
  initial := -33480
  changes :=
    [.oldWest 1806676920 34200]

def casablanca : Zone where
  name := "Africa/Casablanca"
  initial := -1820
  changes :=
    [.oldEast 1773012580 0, .oldEast 956361600 3600, .oldEast 950490000 0,
     .oldEast 942019200 3600, .oldEast 761187600 0, .oldEast 617241600 3600,
     .oldEast 605149200 0, .oldEast 81432000 3600, .oldEast 71110800 0, .east 141264000 3600,
     .east 147222000 0, .east 199756800 3600, .east 207702000 0, .east 231292800 3600,
     .east 244249200 0, .east 265507200 3600, .east 271033200 0, .east 448243200 3600,
     .east 504918000 0, .east 1212278400 3600, .east 1220223600 0, .east 1243814400 3600,
     .east 1250809200 0, .east 1272758400 3600, .east 1281222000 0, .east 1301788800 3600,
     .east 1312066800 0, .east 1335664800 3600, .east 1342749600 0, .east 1345428000 3600,
     .east 1348970400 0, .east 1367114400 3600, .east 1373162400 0, .east 1376100000 3600,
     .east 1382839200 0, .east 1396144800 3600, .east 1403920800 0, .east 1406944800 3600,
     .east 1414288800 0, .east 1427594400 3600, .east 1434247200 0, .east 1437271200 3600,
     .east 1445738400 0, .east 1459044000 3600, .east 1465092000 0, .east 1468116000 3600,
     .east 1477792800 0, .east 1490493600 3600, .east 1495332000 0, .east 1498960800 3600,
     .east 1509242400 0, .east 1521943200 3600, .east 1526176800 0, .east 1529200800 3600,
     .east 1557021600 0, .east 1560045600 3600, .east 1587261600 0, .east 1590890400 3600,
     .east 1618106400 0, .east 1621130400 3600, .east 1648346400 0, .east 1651975200 3600,
     .east 1679191200 0, .east 1682215200 3600, .east 1710036000 0, .east 1713060000 3600,
     .east 1740276000 0, .east 1743904800 3600, .east 1771120800 0, .east 1774144800 3600,
     .east 1801965600 0, .east 1804989600 3600, .east 1832205600 0, .east 1835834400 3600,
     .east 1863050400 0, .east 1866074400 3600, .east 1893290400 0, .east 1896919200 3600,
     .east 1924135200 0, .east 1927159200 3600, .east 1954980000 0, .east 1958004000 3600,
     .east 1985220000 0, .east 1988848800 3600, .east 2016064800 0, .east 2019088800 3600,
     .east 2046304800 0, .east 2049933600 3600, .east 2077149600 0, .east 2080778400 3600,
     .east 2107994400 0, .east 2111018400 3600, .east 2138234400 0, .east 2141863200 3600,
     .east 2169079200 0, .east 2172103200 3600, .east 2199924000 0, .east 2202948000 3600,
     .east 2230164000 0, .east 2233792800 3600, .east 2261008800 0, .east 2264032800 3600,
     .east 2291248800 0, .east 2294877600 3600, .east 2322093600 0, .east 2325722400 3600,
     .east 2352938400 0, .east 2355962400 3600, .east 2383178400 0, .east 2386807200 3600,
     .east 2414023200 0, .east 2417047200 3600, .east 2444868000 0, .east 2447892000 3600,
     .east 2475108000 0, .east 2478736800 3600, .east 2505952800 0, .east 2508976800 3600,
     .east 2536192800 0, .east 2539821600 3600, .east 2567037600 0, .east 2570666400 3600,
     .east 2597882400 0, .east 2600906400 3600, .east 2628122400 0, .east 2631751200 3600,
     .east 2658967200 0, .east 2661991200 3600, .east 2689812000 0, .east 2692836000 3600,
     .east 2720052000 0, .east 2723680800 3600, .east 2750896800 0, .east 2753920800 3600,
     .east 2781136800 0, .east 2784765600 3600, .east 2811981600 0, .east 2815610400 3600,
     .east 2842826400 0, .east 2845850400 3600, .east 2873066400 0, .east 2876695200 3600,
     .east 2903911200 0, .east 2906935200 3600, .east 2934756000 0, .east 2937780000 3600,
     .east 2964996000 0, .east 2968624800 3600, .east 2995840800 0, .east 2998864800 3600,
     .east 3026080800 0, .east 3029709600 3600, .east 3056925600 0, .east 3060554400 3600,
     .east 3087770400 0, .east 3090794400 3600, .east 3118010400 0, .east 3121639200 3600,
     .east 3148855200 0, .east 3151879200 3600, .east 3179700000 0, .east 3182724000 3600,
     .east 3209940000 0, .east 3213568800 3600, .east 3240784800 0, .east 3243808800 3600,
     .east 3271024800 0, .east 3274653600 3600, .east 3301869600 0, .east 3305498400 3600,
     .east 3332714400 0, .east 3335738400 3600, .east 3362954400 0, .east 3366583200 3600,
     .east 3393799200 0, .east 3396823200 3600, .east 3424644000 0, .east 3427668000 3600,
     .east 3454884000 0, .east 3458512800 3600, .east 3485728800 0, .east 3488752800 3600,
     .east 3515968800 0, .east 3519597600 3600, .east 3546813600 0, .east 3549837600 3600,
     .east 3577658400 0, .east 3580682400 3600, .east 3607898400 0, .east 3611527200 3600,
     .east 3638743200 0, .east 3641767200 3600, .east 3669588000 0, .east 3672612000 3600,
     .east 3699828000 0, .east 3703456800 3600]

def all : List Zone :=
  [utc, tokyo, kolkata, kathmandu, newYork, stJohns, berlin, london, lordHowe, saoPaulo,
   cairo, havana, apia, kiritimati, gmtPlus5, usPacific, marquesas, casablanca]

def named? (name : String) : Option Zone :=
  all.find? (·.name == name)

end SheetSql.Zone
