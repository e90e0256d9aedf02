/-
**The Korean character set.**

The standard numbers its characters in rows of 94.  It has the syllables in use, and the ideographs by
their sound.  The other syllables have been added by a manufacturer and stand beside and before these
rows; they follow the order of Unicode, and so need not be listed.

Main definitions:

* `Repertoire.syllables` — the syllables of KS X 1001;
* `Repertoire.otherSyllables` — the other syllables, in the order of Unicode;
* `Repertoire.hanja` — the ideographs of KS X 1001;
* `Repertoire.koreanLetters` — the signs and letters;
* `MultiByte.eucKr` — EUC-KR with the additions of a manufacturer.
-/

import XmlScribe.Charset.MultiByte

set_option autoImplicit false

namespace XmlScribe

namespace Repertoire

/-- The syllables of KS X 1001. -/
def syllables : Repertoire :=
  ofRows
    [(0, "가각간갇갈갉갊감갑값갓갔강갖갗같갚갛개객갠갤갬갭갯갰갱갸갹갼걀걋걍걔걘걜거걱건걷걸걺검겁것겄겅겆겉겊겋게겐겔겜겝겟겠겡겨격겪견겯결겸겹겻겼경곁계곈곌곕곗고곡곤곧"),
     (80, "골곪곬곯곰곱곳공곶과곽관괄괆괌괍괏광괘괜괠괩괬괭괴괵괸괼굄굅굇굉교굔굘굡굣구국군굳굴굵굶굻굼굽굿궁궂궈궉권궐궜궝궤궷귀귁귄귈귐귑귓규균귤그극근귿글긁금급긋긍긔기"),
     (160, "긱긴긷길긺김깁깃깅깆깊까깍깎깐깔깖깜깝깟깠깡깥깨깩깬깰깸깹깻깼깽꺄꺅꺌꺼꺽꺾껀껄껌껍껏껐껑께껙껜껨껫껭껴껸껼꼇꼈꼍꼐꼬꼭꼰꼲꼴꼼꼽꼿꽁꽂꽃꽈꽉꽐꽜꽝꽤꽥꽹꾀꾄꾈"),
     (240, "꾐꾑꾕꾜꾸꾹꾼꿀꿇꿈꿉꿋꿍꿎꿔꿜꿨꿩꿰꿱꿴꿸뀀뀁뀄뀌뀐뀔뀜뀝뀨끄끅끈끊끌끎끓끔끕끗끙끝끼끽낀낄낌낍낏낑나낙낚난낟날낡낢남납낫났낭낮낯낱낳내낵낸낼냄냅냇냈냉냐냑냔"),
     (320, "냘냠냥너넉넋넌널넒넓넘넙넛넜넝넣네넥넨넬넴넵넷넸넹녀녁년녈념녑녔녕녘녜녠노녹논놀놂놈놉놋농높놓놔놘놜놨뇌뇐뇔뇜뇝뇟뇨뇩뇬뇰뇹뇻뇽누눅눈눋눌눔눕눗눙눠눴눼뉘뉜뉠뉨"),
     (400, "뉩뉴뉵뉼늄늅늉느늑는늘늙늚늠늡늣능늦늪늬늰늴니닉닌닐닒님닙닛닝닢다닥닦단닫달닭닮닯닳담답닷닸당닺닻닿대댁댄댈댐댑댓댔댕댜더덕덖던덛덜덞덟덤덥덧덩덫덮데덱덴델뎀뎁"),
     (480, "뎃뎄뎅뎌뎐뎔뎠뎡뎨뎬도독돈돋돌돎돐돔돕돗동돛돝돠돤돨돼됐되된될됨됩됫됴두둑둔둘둠둡둣둥둬뒀뒈뒝뒤뒨뒬뒵뒷뒹듀듄듈듐듕드득든듣들듦듬듭듯등듸디딕딘딛딜딤딥딧딨딩딪"),
     (560, "따딱딴딸땀땁땃땄땅땋때땍땐땔땜땝땟땠땡떠떡떤떨떪떫떰떱떳떴떵떻떼떽뗀뗄뗌뗍뗏뗐뗑뗘뗬또똑똔똘똥똬똴뙈뙤뙨뚜뚝뚠뚤뚫뚬뚱뛔뛰뛴뛸뜀뜁뜅뜨뜩뜬뜯뜰뜸뜹뜻띄띈띌띔띕띠"),
     (640, "띤띨띰띱띳띵라락란랄람랍랏랐랑랒랖랗래랙랜랠램랩랫랬랭랴략랸럇량러럭런럴럼럽럿렀렁렇레렉렌렐렘렙렛렝려력련렬렴렵렷렸령례롄롑롓로록론롤롬롭롯롱롸롼뢍뢨뢰뢴뢸룀룁"),
     (720, "룃룅료룐룔룝룟룡루룩룬룰룸룹룻룽뤄뤘뤠뤼뤽륀륄륌륏륑류륙륜률륨륩륫륭르륵른를름릅릇릉릊릍릎리릭린릴림립릿링마막만많맏말맑맒맘맙맛망맞맡맣매맥맨맬맴맵맷맸맹맺먀먁"),
     (800, "먈먕머먹먼멀멂멈멉멋멍멎멓메멕멘멜멤멥멧멨멩며멱면멸몃몄명몇몌모목몫몬몰몲몸몹못몽뫄뫈뫘뫙뫼묀묄묍묏묑묘묜묠묩묫무묵묶문묻물묽묾뭄뭅뭇뭉뭍뭏뭐뭔뭘뭡뭣뭬뮈뮌뮐뮤"),
     (880, "뮨뮬뮴뮷므믄믈믐믓미믹민믿밀밂밈밉밋밌밍및밑바박밖밗반받발밝밞밟밤밥밧방밭배백밴밸뱀뱁뱃뱄뱅뱉뱌뱍뱐뱝버벅번벋벌벎범법벗벙벚베벡벤벧벨벰벱벳벴벵벼벽변별볍볏볐병"),
     (960, "볕볘볜보복볶본볼봄봅봇봉봐봔봤봬뵀뵈뵉뵌뵐뵘뵙뵤뵨부북분붇불붉붊붐붑붓붕붙붚붜붤붰붸뷔뷕뷘뷜뷩뷰뷴뷸븀븃븅브븍븐블븜븝븟비빅빈빌빎빔빕빗빙빚빛빠빡빤빨빪빰빱빳빴"),
     (1040, "빵빻빼빽뺀뺄뺌뺍뺏뺐뺑뺘뺙뺨뻐뻑뻔뻗뻘뻠뻣뻤뻥뻬뼁뼈뼉뼘뼙뼛뼜뼝뽀뽁뽄뽈뽐뽑뽕뾔뾰뿅뿌뿍뿐뿔뿜뿟뿡쀼쁑쁘쁜쁠쁨쁩삐삑삔삘삠삡삣삥사삭삯산삳살삵삶삼삽삿샀상샅새색"),
     (1120, "샌샐샘샙샛샜생샤샥샨샬샴샵샷샹섀섄섈섐섕서석섞섟선섣설섦섧섬섭섯섰성섶세섹센셀셈셉셋셌셍셔셕션셜셤셥셧셨셩셰셴셸솅소속솎손솔솖솜솝솟송솥솨솩솬솰솽쇄쇈쇌쇔쇗쇘쇠"),
     (1200, "쇤쇨쇰쇱쇳쇼쇽숀숄숌숍숏숑수숙순숟술숨숩숫숭숯숱숲숴쉈쉐쉑쉔쉘쉠쉥쉬쉭쉰쉴쉼쉽쉿슁슈슉슐슘슛슝스슥슨슬슭슴습슷승시식신싣실싫심십싯싱싶싸싹싻싼쌀쌈쌉쌌쌍쌓쌔쌕쌘"),
     (1280, "쌜쌤쌥쌨쌩썅써썩썬썰썲썸썹썼썽쎄쎈쎌쏀쏘쏙쏜쏟쏠쏢쏨쏩쏭쏴쏵쏸쐈쐐쐤쐬쐰쐴쐼쐽쑈쑤쑥쑨쑬쑴쑵쑹쒀쒔쒜쒸쒼쓩쓰쓱쓴쓸쓺쓿씀씁씌씐씔씜씨씩씬씰씸씹씻씽아악안앉않알앍"),
     (1360, "앎앓암압앗았앙앝앞애액앤앨앰앱앳앴앵야약얀얄얇얌얍얏양얕얗얘얜얠얩어억언얹얻얼얽얾엄업없엇었엉엊엌엎에엑엔엘엠엡엣엥여역엮연열엶엷염엽엾엿였영옅옆옇예옌옐옘옙옛"),
     (1440, "옜오옥온올옭옮옰옳옴옵옷옹옻와왁완왈왐왑왓왔왕왜왝왠왬왯왱외왹왼욀욈욉욋욍요욕욘욜욤욥욧용우욱운울욹욺움웁웃웅워웍원월웜웝웠웡웨웩웬웰웸웹웽위윅윈윌윔윕윗윙유육"),
     (1520, "윤율윰윱윳융윷으윽은을읊음읍읏응읒읓읔읕읖읗의읜읠읨읫이익인일읽읾잃임입잇있잉잊잎자작잔잖잗잘잚잠잡잣잤장잦재잭잰잴잼잽잿쟀쟁쟈쟉쟌쟎쟐쟘쟝쟤쟨쟬저적전절젊점접"),
     (1600, "젓정젖제젝젠젤젬젭젯젱져젼졀졈졉졌졍졔조족존졸졺좀좁좃종좆좇좋좌좍좔좝좟좡좨좼좽죄죈죌죔죕죗죙죠죡죤죵주죽준줄줅줆줌줍줏중줘줬줴쥐쥑쥔쥘쥠쥡쥣쥬쥰쥴쥼즈즉즌즐즘"),
     (1680, "즙즛증지직진짇질짊짐집짓징짖짙짚짜짝짠짢짤짧짬짭짯짰짱째짹짼쨀쨈쨉쨋쨌쨍쨔쨘쨩쩌쩍쩐쩔쩜쩝쩟쩠쩡쩨쩽쪄쪘쪼쪽쫀쫄쫌쫍쫏쫑쫓쫘쫙쫠쫬쫴쬈쬐쬔쬘쬠쬡쭁쭈쭉쭌쭐쭘쭙쭝"),
     (1760, "쭤쭸쭹쮜쮸쯔쯤쯧쯩찌찍찐찔찜찝찡찢찧차착찬찮찰참찹찻찼창찾채책챈챌챔챕챗챘챙챠챤챦챨챰챵처척천철첨첩첫첬청체첵첸첼쳄쳅쳇쳉쳐쳔쳤쳬쳰촁초촉촌촐촘촙촛총촤촨촬촹최"),
     (1840, "쵠쵤쵬쵭쵯쵱쵸춈추축춘출춤춥춧충춰췄췌췐취췬췰췸췹췻췽츄츈츌츔츙츠측츤츨츰츱츳층치칙친칟칠칡침칩칫칭카칵칸칼캄캅캇캉캐캑캔캘캠캡캣캤캥캬캭컁커컥컨컫컬컴컵컷컸컹"),
     (1920, "케켁켄켈켐켑켓켕켜켠켤켬켭켯켰켱켸코콕콘콜콤콥콧콩콰콱콴콸쾀쾅쾌쾡쾨쾰쿄쿠쿡쿤쿨쿰쿱쿳쿵쿼퀀퀄퀑퀘퀭퀴퀵퀸퀼큄큅큇큉큐큔큘큠크큭큰클큼큽킁키킥킨킬킴킵킷킹타탁탄"),
     (2000, "탈탉탐탑탓탔탕태택탠탤탬탭탯탰탱탸턍터턱턴털턺텀텁텃텄텅테텍텐텔템텝텟텡텨텬텼톄톈토톡톤톨톰톱톳통톺톼퇀퇘퇴퇸툇툉툐투툭툰툴툼툽툿퉁퉈퉜퉤튀튁튄튈튐튑튕튜튠튤튬"),
     (2080, "튱트특튼튿틀틂틈틉틋틔틘틜틤틥티틱틴틸팀팁팃팅파팍팎판팔팖팜팝팟팠팡팥패팩팬팰팸팹팻팼팽퍄퍅퍼퍽펀펄펌펍펏펐펑페펙펜펠펨펩펫펭펴편펼폄폅폈평폐폘폡폣포폭폰폴폼폽"),
     (2160, "폿퐁퐈퐝푀푄표푠푤푭푯푸푹푼푿풀풂품풉풋풍풔풩퓌퓐퓔퓜퓟퓨퓬퓰퓸퓻퓽프픈플픔픕픗피픽핀필핌핍핏핑하학한할핥함합핫항해핵핸핼햄햅햇했행햐향허헉헌헐헒험헙헛헝헤헥헨"),
     (2240, "헬헴헵헷헹혀혁현혈혐협혓혔형혜혠혤혭호혹혼홀홅홈홉홋홍홑화확환활홧황홰홱홴횃횅회획횐횔횝횟횡효횬횰횹횻후훅훈훌훑훔훗훙훠훤훨훰훵훼훽휀휄휑휘휙휜휠휨휩휫휭휴휵휸"),
     (2320, "휼흄흇흉흐흑흔흖흗흘흙흠흡흣흥흩희흰흴흼흽힁히힉힌힐힘힙힛힝")]

/-- The syllables that KS X 1001 lacks. -/
def otherSyllables : Repertoire :=
  syllables.lacking 0xAC00 0xD7A3

/-- The ideographs of KS X 1001. -/
def hanja : Repertoire :=
  ofRows
    [(0, "伽佳假價加可呵哥嘉嫁家暇架枷柯歌珂痂稼苛茄街袈訶賈跏軻迦駕刻却各恪慤殼珏脚覺角閣侃刊墾奸姦干幹懇揀杆柬桿澗癎看磵稈竿簡肝艮艱諫間乫喝曷渴碣竭葛褐蝎鞨勘坎堪嵌感憾"),
     (80, "戡敢柑橄減甘疳監瞰紺邯鑑鑒龕匣岬甲胛鉀閘剛堈姜岡崗康强彊慷江畺疆糠絳綱羌腔舡薑襁講鋼降鱇介价個凱塏愷愾慨改槪漑疥皆盖箇芥蓋豈鎧開喀客坑更粳羹醵倨去居巨拒据據擧渠"),
     (160, "炬祛距踞車遽鉅鋸乾件健巾建愆楗腱虔蹇鍵騫乞傑杰桀儉劍劒檢瞼鈐黔劫怯迲偈憩揭擊格檄激膈覡隔堅牽犬甄絹繭肩見譴遣鵑抉決潔結缺訣兼慊箝謙鉗鎌京俓倞傾儆勁勍卿坰境庚徑慶"),
     (240, "憬擎敬景暻更梗涇炅烱璟璥瓊痙硬磬竟競絅經耕耿脛莖警輕逕鏡頃頸驚鯨係啓堺契季屆悸戒桂械棨溪界癸磎稽系繫繼計誡谿階鷄古叩告呱固姑孤尻庫拷攷故敲暠枯槁沽痼皐睾稿羔考股"),
     (320, "膏苦苽菰藁蠱袴誥賈辜錮雇顧高鼓哭斛曲梏穀谷鵠困坤崑昆梱棍滾琨袞鯤汨滑骨供公共功孔工恐恭拱控攻珙空蚣貢鞏串寡戈果瓜科菓誇課跨過鍋顆廓槨藿郭串冠官寬慣棺款灌琯瓘管罐"),
     (400, "菅觀貫關館刮恝括适侊光匡壙廣曠洸炚狂珖筐胱鑛卦掛罫乖傀塊壞怪愧拐槐魁宏紘肱轟交僑咬喬嬌嶠巧攪敎校橋狡皎矯絞翹膠蕎蛟較轎郊餃驕鮫丘久九仇俱具勾區口句咎嘔坵垢寇嶇廐"),
     (480, "懼拘救枸柩構歐毆毬求溝灸狗玖球瞿矩究絿耉臼舅舊苟衢謳購軀逑邱鉤銶駒驅鳩鷗龜國局菊鞠鞫麴君窘群裙軍郡堀屈掘窟宮弓穹窮芎躬倦券勸卷圈拳捲權淃眷厥獗蕨蹶闕机櫃潰詭軌饋"),
     (560, "句晷歸貴鬼龜叫圭奎揆槻珪硅窺竅糾葵規赳逵閨勻均畇筠菌鈞龜橘克剋劇戟棘極隙僅劤勤懃斤根槿瑾筋芹菫覲謹近饉契今妗擒昑檎琴禁禽芩衾衿襟金錦伋及急扱汲級給亘兢矜肯企伎其"),
     (640, "冀嗜器圻基埼夔奇妓寄岐崎己幾忌技旗旣朞期杞棋棄機欺氣汽沂淇玘琦琪璂璣畸畿碁磯祁祇祈祺箕紀綺羈耆耭肌記譏豈起錡錤飢饑騎騏驥麒緊佶吉拮桔金喫儺喇奈娜懦懶拏拿癩羅蘿螺"),
     (720, "裸邏那樂洛烙珞落諾酪駱亂卵暖欄煖爛蘭難鸞捏捺南嵐枏楠湳濫男藍襤拉納臘蠟衲囊娘廊朗浪狼郎乃來內奈柰耐冷女年撚秊念恬拈捻寧寗努勞奴弩怒擄櫓爐瑙盧老蘆虜路露駑魯鷺碌祿"),
     (800, "綠菉錄鹿論壟弄濃籠聾膿農惱牢磊腦賂雷尿壘屢樓淚漏累縷陋嫩訥杻紐勒肋凜凌稜綾能菱陵尼泥匿溺多茶丹亶但單團壇彖斷旦檀段湍短端簞緞蛋袒鄲鍛撻澾獺疸達啖坍憺擔曇淡湛潭澹"),
     (880, "痰聃膽蕁覃談譚錟沓畓答踏遝唐堂塘幢戇撞棠當糖螳黨代垈坮大對岱帶待戴擡玳臺袋貸隊黛宅德悳倒刀到圖堵塗導屠島嶋度徒悼挑掉搗桃棹櫂淘渡滔濤燾盜睹禱稻萄覩賭跳蹈逃途道都"),
     (960, "鍍陶韜毒瀆牘犢獨督禿篤纛讀墩惇敦旽暾沌焞燉豚頓乭突仝冬凍動同憧東桐棟洞潼疼瞳童胴董銅兜斗杜枓痘竇荳讀豆逗頭屯臀芚遁遯鈍得嶝橙燈登等藤謄鄧騰喇懶拏癩羅蘿螺裸邏樂洛"),
     (1040, "烙珞絡落諾酪駱丹亂卵欄欒瀾爛蘭鸞剌辣嵐擥攬欖濫籃纜藍襤覽拉臘蠟廊朗浪狼琅瑯螂郞來崍徠萊冷掠略亮倆兩凉梁樑粮粱糧良諒輛量侶儷勵呂廬慮戾旅櫚濾礪藜蠣閭驢驪麗黎力曆歷"),
     (1120, "瀝礫轢靂憐戀攣漣煉璉練聯蓮輦連鍊冽列劣洌烈裂廉斂殮濂簾獵令伶囹寧岺嶺怜玲笭羚翎聆逞鈴零靈領齡例澧禮醴隷勞怒撈擄櫓潞瀘爐盧老蘆虜路輅露魯鷺鹵碌祿綠菉錄鹿麓論壟弄朧"),
     (1200, "瀧瓏籠聾儡瀨牢磊賂賚賴雷了僚寮廖料燎療瞭聊蓼遼鬧龍壘婁屢樓淚漏瘻累縷蔞褸鏤陋劉旒柳榴流溜瀏琉瑠留瘤硫謬類六戮陸侖倫崙淪綸輪律慄栗率隆勒肋凜凌楞稜綾菱陵俚利厘吏唎"),
     (1280, "履悧李梨浬犁狸理璃異痢籬罹羸莉裏裡里釐離鯉吝潾燐璘藺躪隣鱗麟林淋琳臨霖砬立笠粒摩瑪痲碼磨馬魔麻寞幕漠膜莫邈万卍娩巒彎慢挽晩曼滿漫灣瞞萬蔓蠻輓饅鰻唜抹末沫茉襪靺亡"),
     (1360, "妄忘忙望網罔芒茫莽輞邙埋妹媒寐昧枚梅每煤罵買賣邁魅脈貊陌驀麥孟氓猛盲盟萌冪覓免冕勉棉沔眄眠綿緬面麵滅蔑冥名命明暝椧溟皿瞑茗蓂螟酩銘鳴袂侮冒募姆帽慕摸摹暮某模母毛"),
     (1440, "牟牡瑁眸矛耗芼茅謀謨貌木沐牧目睦穆鶩歿沒夢朦蒙卯墓妙廟描昴杳渺猫竗苗錨務巫憮懋戊拇撫无楙武毋無珷畝繆舞茂蕪誣貿霧鵡墨默們刎吻問文汶紊紋聞蚊門雯勿沕物味媚尾嵋彌微"),
     (1520, "未梶楣渼湄眉米美薇謎迷靡黴岷悶愍憫敏旻旼民泯玟珉緡閔密蜜謐剝博拍搏撲朴樸泊珀璞箔粕縛膊舶薄迫雹駁伴半反叛拌搬攀斑槃泮潘班畔瘢盤盼磐磻礬絆般蟠返頒飯勃拔撥渤潑發跋"),
     (1600, "醱鉢髮魃倣傍坊妨尨幇彷房放方旁昉枋榜滂磅紡肪膀舫芳蒡蚌訪謗邦防龐倍俳北培徘拜排杯湃焙盃背胚裴裵褙賠輩配陪伯佰帛柏栢白百魄幡樊煩燔番磻繁蕃藩飜伐筏罰閥凡帆梵氾汎泛"),
     (1680, "犯範范法琺僻劈壁擘檗璧癖碧蘗闢霹便卞弁變辨辯邊別瞥鱉鼈丙倂兵屛幷昞昺柄棅炳甁病秉竝輧餠騈保堡報寶普步洑湺潽珤甫菩補褓譜輔伏僕匐卜宓復服福腹茯蔔複覆輹輻馥鰒本乶俸"),
     (1760, "奉封峯峰捧棒烽熢琫縫蓬蜂逢鋒鳳不付俯傅剖副否咐埠夫婦孚孵富府復扶敷斧浮溥父符簿缶腐腑膚艀芙莩訃負賦賻赴趺部釜阜附駙鳧北分吩噴墳奔奮忿憤扮昐汾焚盆粉糞紛芬賁雰不佛"),
     (1840, "弗彿拂崩朋棚硼繃鵬丕備匕匪卑妃婢庇悲憊扉批斐枇榧比毖毗毘沸泌琵痺砒碑秕秘粃緋翡肥脾臂菲蜚裨誹譬費鄙非飛鼻嚬嬪彬斌檳殯浜濱瀕牝玭貧賓頻憑氷聘騁乍事些仕伺似使俟僿史"),
     (1920, "司唆嗣四士奢娑寫寺射巳師徙思捨斜斯柶査梭死沙泗渣瀉獅砂社祀祠私篩紗絲肆舍莎蓑蛇裟詐詞謝賜赦辭邪飼駟麝削數朔索傘刪山散汕珊産疝算蒜酸霰乷撒殺煞薩三參杉森渗芟蔘衫揷"),
     (2000, "澁鈒颯上傷像償商喪嘗孀尙峠常床庠廂想桑橡湘爽牀狀相祥箱翔裳觴詳象賞霜塞璽賽嗇塞穡索色牲生甥省笙墅壻嶼序庶徐恕抒捿敍暑曙書栖棲犀瑞筮絮緖署胥舒薯西誓逝鋤黍鼠夕奭席"),
     (2080, "惜昔晳析汐淅潟石碩蓆釋錫仙僊先善嬋宣扇敾旋渲煽琁瑄璇璿癬禪線繕羨腺膳船蘚蟬詵跣選銑鐥饍鮮卨屑楔泄洩渫舌薛褻設說雪齧剡暹殲纖蟾贍閃陝攝涉燮葉城姓宬性惺成星晟猩珹盛"),
     (2160, "省筬聖聲腥誠醒世勢歲洗稅笹細說貰召嘯塑宵小少巢所掃搔昭梳沼消溯瀟炤燒甦疏疎瘙笑篠簫素紹蔬蕭蘇訴逍遡邵銷韶騷俗屬束涑粟續謖贖速孫巽損蓀遜飡率宋悚松淞訟誦送頌刷殺灑"),
     (2240, "碎鎖衰釗修受嗽囚垂壽嫂守岫峀帥愁戍手授搜收數樹殊水洙漱燧狩獸琇璲瘦睡秀穗竪粹綏綬繡羞脩茱蒐蓚藪袖誰讐輸遂邃酬銖銹隋隧隨雖需須首髓鬚叔塾夙孰宿淑潚熟琡璹肅菽巡徇循"),
     (2320, "恂旬栒楯橓殉洵淳珣盾瞬筍純脣舜荀蓴蕣詢諄醇錞順馴戌術述鉥崇崧嵩瑟膝蝨濕拾習褶襲丞乘僧勝升承昇繩蠅陞侍匙嘶始媤尸屎屍市弑恃施是時枾柴猜矢示翅蒔蓍視試詩諡豕豺埴寔式"),
     (2400, "息拭植殖湜熄篒蝕識軾食飾伸侁信呻娠宸愼新晨燼申神紳腎臣莘薪藎蜃訊身辛辰迅失室實悉審尋心沁沈深瀋甚芯諶什十拾雙氏亞俄兒啞娥峨我牙芽莪蛾衙訝阿雅餓鴉鵝堊岳嶽幄惡愕握"),
     (2480, "樂渥鄂鍔顎鰐齷安岸按晏案眼雁鞍顔鮟斡謁軋閼唵岩巖庵暗癌菴闇壓押狎鴨仰央怏昻殃秧鴦厓哀埃崖愛曖涯碍艾隘靄厄扼掖液縊腋額櫻罌鶯鸚也倻冶夜惹揶椰爺耶若野弱掠略約若葯蒻"),
     (2560, "藥躍亮佯兩凉壤孃恙揚攘敭暘梁楊樣洋瀁煬痒瘍禳穰糧羊良襄諒讓釀陽量養圄御於漁瘀禦語馭魚齬億憶抑檍臆偃堰彦焉言諺孼蘖俺儼嚴奄掩淹嶪業円予余勵呂女如廬旅歟汝濾璵礖礪與"),
     (2640, "艅茹輿轝閭餘驪麗黎亦力域役易曆歷疫繹譯轢逆驛嚥堧姸娟宴年延憐戀捐挻撚椽沇沿涎涓淵演漣烟然煙煉燃燕璉硏硯秊筵緣練縯聯衍軟輦蓮連鉛鍊鳶列劣咽悅涅烈熱裂說閱厭廉念捻染"),
     (2720, "殮炎焰琰艶苒簾閻髥鹽曄獵燁葉令囹塋寧嶺嶸影怜映暎楹榮永泳渶潁濚瀛瀯煐營獰玲瑛瑩瓔盈穎纓羚聆英詠迎鈴鍈零霙靈領乂倪例刈叡曳汭濊猊睿穢芮藝蘂禮裔詣譽豫醴銳隸霓預五伍"),
     (2800, "俉傲午吾吳嗚塢墺奧娛寤悟惡懊敖旿晤梧汚澳烏熬獒筽蜈誤鰲鼇屋沃獄玉鈺溫瑥瘟穩縕蘊兀壅擁瓮甕癰翁邕雍饔渦瓦窩窪臥蛙蝸訛婉完宛梡椀浣玩琓琬碗緩翫脘腕莞豌阮頑曰往旺枉汪"),
     (2880, "王倭娃歪矮外嵬巍猥畏了僚僥凹堯夭妖姚寥寮尿嶢拗搖撓擾料曜樂橈燎燿瑤療窈窯繇繞耀腰蓼蟯要謠遙遼邀饒慾欲浴縟褥辱俑傭冗勇埇墉容庸慂榕涌湧溶熔瑢用甬聳茸蓉踊鎔鏞龍于佑"),
     (2960, "偶優又友右宇寓尤愚憂旴牛玗瑀盂祐禑禹紆羽芋藕虞迂遇郵釪隅雨雩勖彧旭昱栯煜稶郁頊云暈橒殞澐熉耘芸蕓運隕雲韻蔚鬱亐熊雄元原員圓園垣媛嫄寃怨愿援沅洹湲源爰猿瑗苑袁轅遠"),
     (3040, "阮院願鴛月越鉞位偉僞危圍委威尉慰暐渭爲瑋緯胃萎葦蔿蝟衛褘謂違韋魏乳侑儒兪劉唯喩孺宥幼幽庾悠惟愈愉揄攸有杻柔柚柳楡楢油洧流游溜濡猶猷琉瑜由留癒硫紐維臾萸裕誘諛諭踰"),
     (3120, "蹂遊逾遺酉釉鍮類六堉戮毓肉育陸倫允奫尹崙淪潤玧胤贇輪鈗閏律慄栗率聿戎瀜絨融隆垠恩慇殷誾銀隱乙吟淫蔭陰音飮揖泣邑凝應膺鷹依倚儀宜意懿擬椅毅疑矣義艤薏蟻衣誼議醫二以"),
     (3200, "伊利吏夷姨履已弛彛怡易李梨泥爾珥理異痍痢移罹而耳肄苡荑裏裡貽貳邇里離飴餌匿溺瀷益翊翌翼謚人仁刃印吝咽因姻寅引忍湮燐璘絪茵藺蚓認隣靭靷鱗麟一佚佾壹日溢逸鎰馹任壬妊"),
     (3280, "姙恁林淋稔臨荏賃入卄立笠粒仍剩孕芿仔刺咨姉姿子字孜恣慈滋炙煮玆瓷疵磁紫者自茨蔗藉諮資雌作勺嚼斫昨灼炸爵綽芍酌雀鵲孱棧殘潺盞岑暫潛箴簪蠶雜丈仗匠場墻壯奬將帳庄張掌"),
     (3360, "暲杖樟檣欌漿牆狀獐璋章粧腸臟臧莊葬蔣薔藏裝贓醬長障再哉在宰才材栽梓渽滓災縡裁財載齋齎爭箏諍錚佇低儲咀姐底抵杵楮樗沮渚狙猪疽箸紵苧菹著藷詛貯躇這邸雎齟勣吊嫡寂摘敵"),
     (3440, "滴狄炙的積笛籍績翟荻謫賊赤跡蹟迪迹適鏑佃佺傳全典前剪塡塼奠專展廛悛戰栓殿氈澱煎琠田甸畑癲筌箋箭篆纏詮輾轉鈿銓錢鐫電顚顫餞切截折浙癤竊節絶占岾店漸点粘霑鮎點接摺蝶"),
     (3520, "丁井亭停偵呈姃定幀庭廷征情挺政整旌晶晸柾楨檉正汀淀淨渟湞瀞炡玎珽町睛碇禎程穽精綎艇訂諪貞鄭酊釘鉦鋌錠霆靖靜頂鼎制劑啼堤帝弟悌提梯濟祭第臍薺製諸蹄醍除際霽題齊俎兆"),
     (3600, "凋助嘲弔彫措操早晁曺曹朝條棗槽漕潮照燥爪璪眺祖祚租稠窕粗糟組繰肇藻蚤詔調趙躁造遭釣阻雕鳥族簇足鏃存尊卒拙猝倧宗從悰慫棕淙琮種終綜縱腫踪踵鍾鐘佐坐左座挫罪主住侏做"),
     (3680, "姝胄呪周嗾奏宙州廚晝朱柱株注洲湊澍炷珠疇籌紂紬綢舟蛛註誅走躊輳週酎酒鑄駐竹粥俊儁准埈寯峻晙樽浚準濬焌畯竣蠢逡遵雋駿茁中仲衆重卽櫛楫汁葺增憎曾拯烝甑症繒蒸證贈之只"),
     (3760, "咫地址志持指摯支旨智枝枳止池沚漬知砥祉祗紙肢脂至芝芷蜘誌識贄趾遲直稙稷織職唇嗔塵振搢晉晋桭榛殄津溱珍瑨璡畛疹盡眞瞋秦縉縝臻蔯袗診賑軫辰進鎭陣陳震侄叱姪嫉帙桎瓆疾"),
     (3840, "秩窒膣蛭質跌迭斟朕什執潗緝輯鏶集徵懲澄且侘借叉嗟嵯差次此磋箚茶蹉車遮捉搾着窄錯鑿齪撰澯燦璨瓚竄簒纂粲纘讚贊鑽餐饌刹察擦札紮僭參塹慘慙懺斬站讒讖倉倡創唱娼廠彰愴敞"),
     (3920, "昌昶暢槍滄漲猖瘡窓脹艙菖蒼債埰寀寨彩採砦綵菜蔡采釵冊柵策責凄妻悽處倜刺剔尺慽戚拓擲斥滌瘠脊蹠陟隻仟千喘天川擅泉淺玔穿舛薦賤踐遷釧闡阡韆凸哲喆徹撤澈綴輟轍鐵僉尖沾"),
     (4000, "添甛瞻簽籤詹諂堞妾帖捷牒疊睫諜貼輒廳晴淸聽菁請靑鯖切剃替涕滯締諦逮遞體初剿哨憔抄招梢椒楚樵炒焦硝礁礎秒稍肖艸苕草蕉貂超酢醋醮促囑燭矗蜀觸寸忖村邨叢塚寵悤憁摠總聰"),
     (4080, "蔥銃撮催崔最墜抽推椎楸樞湫皺秋芻萩諏趨追鄒酋醜錐錘鎚雛騶鰍丑畜祝竺筑築縮蓄蹙蹴軸逐春椿瑃出朮黜充忠沖蟲衝衷悴膵萃贅取吹嘴娶就炊翠聚脆臭趣醉驟鷲側仄厠惻測層侈値嗤"),
     (4160, "峙幟恥梔治淄熾痔痴癡稚穉緇緻置致蚩輜雉馳齒則勅飭親七柒漆侵寢枕沈浸琛砧針鍼蟄秤稱快他咤唾墮妥惰打拖朶楕舵陀馱駝倬卓啄坼度托拓擢晫柝濁濯琢琸託鐸呑嘆坦彈憚歎灘炭綻"),
     (4240, "誕奪脫探眈耽貪塔搭榻宕帑湯糖蕩兌台太怠態殆汰泰笞胎苔跆邰颱宅擇澤撑攄兎吐土討慟桶洞痛筒統通堆槌腿褪退頹偸套妬投透鬪慝特闖坡婆巴把播擺杷波派爬琶破罷芭跛頗判坂板版"),
     (4320, "瓣販辦鈑阪八叭捌佩唄悖敗沛浿牌狽稗覇貝彭澎烹膨愎便偏扁片篇編翩遍鞭騙貶坪平枰萍評吠嬖幣廢弊斃肺蔽閉陛佈包匍匏咆哺圃布怖抛抱捕暴泡浦疱砲胞脯苞葡蒲袍褒逋鋪飽鮑幅暴"),
     (4400, "曝瀑爆輻俵剽彪慓杓標漂瓢票表豹飇飄驃品稟楓諷豊風馮彼披疲皮被避陂匹弼必泌珌畢疋筆苾馝乏逼下何厦夏廈昰河瑕荷蝦賀遐霞鰕壑學虐謔鶴寒恨悍旱汗漢澣瀚罕翰閑閒限韓割轄函"),
     (4480, "含咸啣喊檻涵緘艦銜陷鹹合哈盒蛤閤闔陜亢伉姮嫦巷恒抗杭桁沆港缸肛航行降項亥偕咳垓奚孩害懈楷海瀣蟹解該諧邂駭骸劾核倖幸杏荇行享向嚮珦鄕響餉饗香噓墟虛許憲櫶獻軒歇險驗"),
     (4560, "奕爀赫革俔峴弦懸晛泫炫玄玹現眩睍絃絢縣舷衒見賢鉉顯孑穴血頁嫌俠協夾峽挾浹狹脅脇莢鋏頰亨兄刑型形泂滎瀅灐炯熒珩瑩荊螢衡逈邢鎣馨兮彗惠慧暳蕙蹊醯鞋乎互呼壕壺好岵弧戶"),
     (4640, "扈昊晧毫浩淏湖滸澔濠濩灝狐琥瑚瓠皓祜糊縞胡芦葫蒿虎號蝴護豪鎬頀顥惑或酷婚昏混渾琿魂忽惚笏哄弘汞泓洪烘紅虹訌鴻化和嬅樺火畵禍禾花華話譁貨靴廓擴攫確碻穫丸喚奐宦幻患"),
     (4720, "換歡晥桓渙煥環紈還驩鰥活滑猾豁闊凰幌徨恍惶愰慌晃晄榥況湟滉潢煌璜皇篁簧荒蝗遑隍黃匯回廻徊恢悔懷晦會檜淮澮灰獪繪膾茴蛔誨賄劃獲宖橫鐄哮嚆孝效斅曉梟涍淆爻肴酵驍侯候"),
     (4800, "厚后吼喉嗅帿後朽煦珝逅勛勳塤壎焄熏燻薰訓暈薨喧暄煊萱卉喙毁彙徽揮暉煇諱輝麾休携烋畦虧恤譎鷸兇凶匈洶胸黑昕欣炘痕吃屹紇訖欠欽歆吸恰洽翕興僖凞喜噫囍姬嬉希憙憘戱晞曦"),
     (4880, "熙熹熺犧禧稀羲詰")]

/-- The signs and letters of KS X 1001. -/
def koreanLetters : Repertoire :=
  [(0x3000, 0x3002, 6176), (0xB7, 0xB7, 6179), (0x2025, 0x2026, 6180), (0xA8, 0xA8, 6182),
    (0x3003, 0x3003, 6183), (0xAD, 0xAD, 6184), (0x2015, 0x2015, 6185), (0x2225, 0x2225, 6186),
    (0xFF3C, 0xFF3C, 6187), (0x223C, 0x223C, 6188), (0x2018, 0x2019, 6189),
    (0x201C, 0x201D, 6191), (0x3014, 0x3015, 6193), (0x3008, 0x3011, 6195), (0xB1, 0xB1, 6205),
    (0xD7, 0xD7, 6206), (0xF7, 0xF7, 6207), (0x2260, 0x2260, 6208), (0x2264, 0x2265, 6209),
    (0x221E, 0x221E, 6211), (0x2234, 0x2234, 6212), (0xB0, 0xB0, 6213), (0x2032, 0x2033, 6214),
    (0x2103, 0x2103, 6216), (0x212B, 0x212B, 6217), (0xFFE0, 0xFFE1, 6218),
    (0xFFE5, 0xFFE5, 6220), (0x2642, 0x2642, 6221), (0x2640, 0x2640, 6222),
    (0x2220, 0x2220, 6223), (0x22A5, 0x22A5, 6224), (0x2312, 0x2312, 6225),
    (0x2202, 0x2202, 6226), (0x2207, 0x2207, 6227), (0x2261, 0x2261, 6228),
    (0x2252, 0x2252, 6229), (0xA7, 0xA7, 6230), (0x203B, 0x203B, 6231), (0x2606, 0x2606, 6232),
    (0x2605, 0x2605, 6233), (0x25CB, 0x25CB, 6234), (0x25CF, 0x25CF, 6235),
    (0x25CE, 0x25CE, 6236), (0x25C7, 0x25C7, 6237), (0x25C6, 0x25C6, 6238),
    (0x25A1, 0x25A1, 6239), (0x25A0, 0x25A0, 6240), (0x25B3, 0x25B3, 6241),
    (0x25B2, 0x25B2, 6242), (0x25BD, 0x25BD, 6243), (0x25BC, 0x25BC, 6244),
    (0x2192, 0x2192, 6245), (0x2190, 0x2191, 6246), (0x2193, 0x2194, 6248),
    (0x3013, 0x3013, 6250), (0x226A, 0x226B, 6251), (0x221A, 0x221A, 6253),
    (0x223D, 0x223D, 6254), (0x221D, 0x221D, 6255), (0x2235, 0x2235, 6256),
    (0x222B, 0x222C, 6257), (0x2208, 0x2208, 6259), (0x220B, 0x220B, 6260),
    (0x2286, 0x2287, 6261), (0x2282, 0x2283, 6263), (0x222A, 0x222A, 6265),
    (0x2229, 0x2229, 6266), (0x2227, 0x2228, 6267), (0xFFE2, 0xFFE2, 6269),
    (0x21D2, 0x21D2, 6366), (0x21D4, 0x21D4, 6367), (0x2200, 0x2200, 6368),
    (0x2203, 0x2203, 6369), (0xB4, 0xB4, 6370), (0xFF5E, 0xFF5E, 6371), (0x2C7, 0x2C7, 6372),
    (0x2D8, 0x2D8, 6373), (0x2DD, 0x2DD, 6374), (0x2DA, 0x2DA, 6375), (0x2D9, 0x2D9, 6376),
    (0xB8, 0xB8, 6377), (0x2DB, 0x2DB, 6378), (0xA1, 0xA1, 6379), (0xBF, 0xBF, 6380),
    (0x2D0, 0x2D0, 6381), (0x222E, 0x222E, 6382), (0x2211, 0x2211, 6383), (0x220F, 0x220F, 6384),
    (0xA4, 0xA4, 6385), (0x2109, 0x2109, 6386), (0x2030, 0x2030, 6387), (0x25C1, 0x25C1, 6388),
    (0x25C0, 0x25C0, 6389), (0x25B7, 0x25B7, 6390), (0x25B6, 0x25B6, 6391),
    (0x2664, 0x2664, 6392), (0x2660, 0x2661, 6393), (0x2665, 0x2665, 6395),
    (0x2667, 0x2667, 6396), (0x2663, 0x2663, 6397), (0x2299, 0x2299, 6398),
    (0x25C8, 0x25C8, 6399), (0x25A3, 0x25A3, 6400), (0x25D0, 0x25D1, 6401),
    (0x2592, 0x2592, 6403), (0x25A4, 0x25A5, 6404), (0x25A8, 0x25A8, 6406),
    (0x25A7, 0x25A7, 6407), (0x25A6, 0x25A6, 6408), (0x25A9, 0x25A9, 6409),
    (0x2668, 0x2668, 6410), (0x260F, 0x260F, 6411), (0x260E, 0x260E, 6412),
    (0x261C, 0x261C, 6413), (0x261E, 0x261E, 6414), (0xB6, 0xB6, 6415), (0x2020, 0x2021, 6416),
    (0x2195, 0x2195, 6418), (0x2197, 0x2197, 6419), (0x2199, 0x2199, 6420),
    (0x2196, 0x2196, 6421), (0x2198, 0x2198, 6422), (0x266D, 0x266D, 6423),
    (0x2669, 0x266A, 6424), (0x266C, 0x266C, 6426), (0x327F, 0x327F, 6427),
    (0x321C, 0x321C, 6428), (0x2116, 0x2116, 6429), (0x33C7, 0x33C7, 6430),
    (0x2122, 0x2122, 6431), (0x33C2, 0x33C2, 6432), (0x33D8, 0x33D8, 6433),
    (0x2121, 0x2121, 6434), (0x20AC, 0x20AC, 6435), (0xAE, 0xAE, 6436), (0xFF01, 0xFF3B, 6556),
    (0xFFE6, 0xFFE6, 6615), (0xFF3D, 0xFF5D, 6616), (0xFFE3, 0xFFE3, 6649),
    (0x3131, 0x318E, 6746), (0x2170, 0x2179, 6936), (0x2160, 0x2169, 6951), (0x391, 0x3A1, 6968),
    (0x3A3, 0x3A9, 6985), (0x3B1, 0x3C1, 7000), (0x3C3, 0x3C9, 7017), (0x2500, 0x2500, 7126),
    (0x2502, 0x2502, 7127), (0x250C, 0x250C, 7128), (0x2510, 0x2510, 7129),
    (0x2518, 0x2518, 7130), (0x2514, 0x2514, 7131), (0x251C, 0x251C, 7132),
    (0x252C, 0x252C, 7133), (0x2524, 0x2524, 7134), (0x2534, 0x2534, 7135),
    (0x253C, 0x253C, 7136), (0x2501, 0x2501, 7137), (0x2503, 0x2503, 7138),
    (0x250F, 0x250F, 7139), (0x2513, 0x2513, 7140), (0x251B, 0x251B, 7141),
    (0x2517, 0x2517, 7142), (0x2523, 0x2523, 7143), (0x2533, 0x2533, 7144),
    (0x252B, 0x252B, 7145), (0x253B, 0x253B, 7146), (0x254B, 0x254B, 7147),
    (0x2520, 0x2520, 7148), (0x252F, 0x252F, 7149), (0x2528, 0x2528, 7150),
    (0x2537, 0x2537, 7151), (0x253F, 0x253F, 7152), (0x251D, 0x251D, 7153),
    (0x2530, 0x2530, 7154), (0x2525, 0x2525, 7155), (0x2538, 0x2538, 7156),
    (0x2542, 0x2542, 7157), (0x2512, 0x2512, 7158), (0x2511, 0x2511, 7159),
    (0x251A, 0x251A, 7160), (0x2519, 0x2519, 7161), (0x2516, 0x2516, 7162),
    (0x2515, 0x2515, 7163), (0x250E, 0x250E, 7164), (0x250D, 0x250D, 7165),
    (0x251E, 0x251F, 7166), (0x2521, 0x2522, 7168), (0x2526, 0x2527, 7170),
    (0x2529, 0x252A, 7172), (0x252D, 0x252E, 7174), (0x2531, 0x2532, 7176),
    (0x2535, 0x2536, 7178), (0x2539, 0x253A, 7180), (0x253D, 0x253E, 7182),
    (0x2540, 0x2541, 7184), (0x2543, 0x254A, 7186), (0x3395, 0x3397, 7316),
    (0x2113, 0x2113, 7319), (0x3398, 0x3398, 7320), (0x33C4, 0x33C4, 7321),
    (0x33A3, 0x33A6, 7322), (0x3399, 0x33A2, 7326), (0x33CA, 0x33CA, 7336),
    (0x338D, 0x338F, 7337), (0x33CF, 0x33CF, 7340), (0x3388, 0x3389, 7341),
    (0x33C8, 0x33C8, 7343), (0x33A7, 0x33A8, 7344), (0x33B0, 0x33B9, 7346),
    (0x3380, 0x3384, 7356), (0x33BA, 0x33BF, 7361), (0x3390, 0x3394, 7367),
    (0x2126, 0x2126, 7372), (0x33C0, 0x33C1, 7373), (0x338A, 0x338C, 7375),
    (0x33D6, 0x33D6, 7378), (0x33C5, 0x33C5, 7379), (0x33AD, 0x33AF, 7380),
    (0x33DB, 0x33DB, 7383), (0x33A9, 0x33AC, 7384), (0x33DD, 0x33DD, 7388),
    (0x33D0, 0x33D0, 7389), (0x33D3, 0x33D3, 7390), (0x33C3, 0x33C3, 7391),
    (0x33C9, 0x33C9, 7392), (0x33DC, 0x33DC, 7393), (0x33C6, 0x33C6, 7394), (0xC6, 0xC6, 7506),
    (0xD0, 0xD0, 7507), (0xAA, 0xAA, 7508), (0x126, 0x126, 7509), (0x132, 0x132, 7511),
    (0x13F, 0x13F, 7513), (0x141, 0x141, 7514), (0xD8, 0xD8, 7515), (0x152, 0x152, 7516),
    (0xBA, 0xBA, 7517), (0xDE, 0xDE, 7518), (0x166, 0x166, 7519), (0x14A, 0x14A, 7520),
    (0x3260, 0x327B, 7522), (0x24D0, 0x24E9, 7550), (0x2460, 0x246E, 7576), (0xBD, 0xBD, 7591),
    (0x2153, 0x2154, 7592), (0xBC, 0xBC, 7594), (0xBE, 0xBE, 7595), (0x215B, 0x215E, 7596),
    (0xE6, 0xE6, 7696), (0x111, 0x111, 7697), (0xF0, 0xF0, 7698), (0x127, 0x127, 7699),
    (0x131, 0x131, 7700), (0x133, 0x133, 7701), (0x138, 0x138, 7702), (0x140, 0x140, 7703),
    (0x142, 0x142, 7704), (0xF8, 0xF8, 7705), (0x153, 0x153, 7706), (0xDF, 0xDF, 7707),
    (0xFE, 0xFE, 7708), (0x167, 0x167, 7709), (0x14B, 0x14B, 7710), (0x149, 0x149, 7711),
    (0x3200, 0x321B, 7712), (0x249C, 0x24B5, 7740), (0x2474, 0x2482, 7766), (0xB9, 0xB9, 7781),
    (0xB2, 0xB3, 7782), (0x2074, 0x2074, 7784), (0x207F, 0x207F, 7785), (0x2081, 0x2084, 7786),
    (0x3041, 0x3093, 7886), (0x30A1, 0x30F6, 8076), (0x410, 0x415, 8266), (0x401, 0x401, 8272),
    (0x416, 0x42F, 8273), (0x430, 0x435, 8314), (0x451, 0x451, 8320), (0x436, 0x44F, 8321)]

end Repertoire

namespace MultiByte

/-- The columns of the added syllables, up to some last value. -/
def addedColumns (last : Nat) : Axis :=
  [(0x41, 0x5A), (0x61, 0x7A), (0x81, last)]

/-- The forms of EUC-KR. -/
def koreanForms : List Form :=
  [⟨[[[(0x81, 0xFE)], [(0x41, 0xFE)]]], .koreanLetters⟩,
   ⟨[[[(0xB0, 0xC8)], [(0xA1, 0xFE)]]], .syllables⟩,
   ⟨[[[(0x81, 0xA0)], addedColumns 0xFE], [[(0xA1, 0xC6)], addedColumns 0xA0]], .otherSyllables⟩,
   ⟨[[[(0xCA, 0xFD)], [(0xA1, 0xFE)]]], .hanja⟩]

/-- EUC-KR. -/
def eucKr : MultiByte where
  reads := koreanForms
  writes := koreanForms
  pairs := []

end MultiByte

end XmlScribe
